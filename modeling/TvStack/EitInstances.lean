-- The event information table: the events of a section with their times and
-- descriptors, and the store. Each sub-table has an instance with a tracker of its
-- version, the events of its sections, the sections that are safe to use, and the
-- ends of its segments.
import Mathlib.Data.Prod.Lex
import TvStack.DescriptorReads
import TvStack.EventDescriptorReads
import TvStack.OrderedMaps

open Checked Words

namespace arib_si_engine_rs.eit

open arib_si_engine_rs.sections arib_si_engine_rs.descriptors
open arib_si_engine_rs.arib_string (GraphicTables)

variable {bytes : List UInt8}

inductive EitScope
  | PresentFollowingActual
  | PresentFollowingOther
  | ScheduleActual
  | ScheduleOther
  | Unknown
  deriving DecidableEq

inductive EitTimingState
  | Defined
  | UndefinedTime
  | BothTimingUndefined
  | MalformedTiming
  deriving DecidableEq

def EitTimingState.has_stable_identity : EitTimingState → Bool
  | .Defined | .UndefinedTime => true
  | .BothTimingUndefined | .MalformedTiming => false

structure EitStableEventIdentity where
  (original_network_id transport_stream_id service_id event_id : Nat)

structure EitEventDiagnostic where
  event_identity : Option EitStableEventIdentity
  parse_status : DescriptorParseStatus
  reason : String
  descriptor_diagnostics : List DescriptorDiagnostic
  malformed_descriptor_count : Nat

structure EitEvent where
  diagnostics : List EitEventDiagnostic
  (table_id version section_number last_section_number : UInt8)
  scope : EitScope
  (service_id transport_stream_id original_network_id event_id : Nat)
  timing_state : EitTimingState
  (raw_start_time raw_duration : List UInt8)
  start_time_millis : Int
  duration_millis : Int
  free_ca_mode : Bool
  descriptors : EventDescriptors

def classify_table_id (table_id : UInt8) : EitScope :=
  if table_id = 0x4e then .PresentFollowingActual
  else if table_id = 0x4f then .PresentFollowingOther
  else if 0x50 ≤ table_id ∧ table_id ≤ 0x5f then .ScheduleActual
  else if 0x60 ≤ table_id ∧ table_id ≤ 0x6f then .ScheduleOther
  else .Unknown

structure EitSectionFacts where
  events : List EitEvent := []
  event_loop_complete : Bool := false

/-! ## Times -/

def decode_bcd2 (v : UInt8) : Option Int :=
  let high := (v >>> 4) &&& 0x0f
  let low := v &&& 0x0f
  if high ≤ 9 ∧ low ≤ 9 then some (high.toNat * 10 + low.toNat) else none

/-- The date of a modified Julian day. The divisions round toward 0. -/
def mjd_to_ymd (mjd : Int) : Int × Int × Int :=
  let l := mjd + 2400001 + 68569
  let n := (4 * l).tdiv 146097
  let l := l - (146097 * n + 3).tdiv 4
  let i := (4000 * (l + 1)).tdiv 1461001
  let l := l - (1461 * i).tdiv 4 + 31
  let j := (80 * l).tdiv 2447
  let day := l - (2447 * j).tdiv 80
  let l := j.tdiv 11
  (100 * (n - 49) + i + l, j + 2 - 12 * l, day)

def civil_to_unix_millis (year month day hour minute second : Int) : Int :=
  let y := if month ≤ 2 then year - 1 else year
  let era := (if 0 ≤ y then y else y - 399).tdiv 400
  let yoe := y - era * 400
  let mp := month + if 2 < month then -3 else 9
  let doy := (153 * mp + 2).tdiv 5 + day - 1
  let doe := yoe * 365 + yoe.tdiv 4 - yoe.tdiv 100 + doy
  let days := era * 146097 + doe - 719468
  (days * 86400 + hour * 3600 + minute * 60 + second) * 1000

def decode_duration_millis (bytes : List UInt8) (offset : Nat) : Run (Option Int) := do
  let some h := decode_bcd2 (← index bytes offset) | return none
  let some m := decode_bcd2 (← index bytes (offset + 1)) | return none
  let some s := decode_bcd2 (← index bytes (offset + 2)) | return none
  return if 59 < m ∨ 59 < s then none else some ((h * 3600 + m * 60 + s) * 1000)

def decode_mjd_bcd_millis (bytes : List UInt8) (offset : Nat) : Run (Option Int) := do
  let mjd ← u16_at bytes offset
  if mjd = 0xffff then return none
  let (year, month, day) := mjd_to_ymd mjd
  let some h := decode_bcd2 (← index bytes (offset + 2)) | return none
  let some m := decode_bcd2 (← index bytes (offset + 3)) | return none
  let some s := decode_bcd2 (← index bytes (offset + 4)) | return none
  return if 23 < h ∨ 59 < m ∨ 59 < s then none
    else some (civil_to_unix_millis year month day h m s - 9 * 60 * 60 * 1000)

/-- A time that is read unless all of its bits are set. -/
def unless_undefined (undefined : Bool) (read : Run (Option Int)) : Run (Option Int) :=
  if undefined then pure none else read

def classify_timing (bytes : List UInt8) (start_offset duration_offset : Nat) :
    Run (EitTimingState × Option Int × Option Int) := do
  let start_undefined := (← range bytes start_offset (start_offset + 5)).all (· = 0xff)
  let duration_undefined := (← range bytes duration_offset (duration_offset + 3)).all (· = 0xff)
  if start_undefined && duration_undefined then return (.BothTimingUndefined, none, none)
  let start ← unless_undefined start_undefined (decode_mjd_bcd_millis bytes start_offset)
  let duration ← unless_undefined duration_undefined
    (decode_duration_millis bytes duration_offset)
  let malformed := (!start_undefined && start.isNone) || (!duration_undefined && duration.isNone)
  let state : EitTimingState :=
    if malformed then .MalformedTiming
    else if start_undefined || duration_undefined then .UndefinedTime
    else .Defined
  return (state, start, duration)

/-! ## Events -/

/-- What all events of a section share. -/
structure EitSectionContext where
  header : SectionHeader
  (service_id transport_stream_id original_network_id body_end : Nat)

def event_diagnostics (timing_state : EitTimingState) (identity : Option EitStableEventIdentity)
    (descriptors : EventDescriptors) : List EitEventDiagnostic :=
  (if timing_state = .MalformedTiming then
    [{ event_identity := none
       parse_status := .InvalidSequence
       reason := "EITの開始時刻または継続時間に不正なBCD・時刻欄があります"
       descriptor_diagnostics := []
       malformed_descriptor_count := 0 }] else []) ++
  descriptors.diagnostics.map fun diagnostic =>
    { event_identity := identity
      parse_status := diagnostic.parse_status
      reason := diagnostic.message
      descriptor_diagnostics := [diagnostic]
      malformed_descriptor_count := if diagnostic.parse_status.is_structural_error then 1 else 0 }

variable (tables : GraphicTables)

/-- The descriptors of an event. A loop that the section cuts is kept as far as it came. -/
def event_descriptors (bytes : List UInt8) (body_end desc_start desc_len desc_end : Nat) :
    Run EventDescriptors := do
  let available ← range bytes desc_start (min desc_end body_end)
  let descriptors ← parse_event_descriptors tables available
  if body_end < desc_end then
    let rest ← range bytes desc_start body_end
    return { descriptors with
      truncated_loop := some { declared_length := desc_len, raw_bytes := available }
      diagnostics := descriptors.diagnostics ++ [event_descriptor_loop_truncated_diagnostic
        desc_start desc_len (body_end - desc_start) rest] }
  else return descriptors

def event_turn (bytes : List UInt8) (context : EitSectionContext) (s : Nat × List EitEvent) :
    Run (Nat × List EitEvent ⊕ Nat × List EitEvent) := do
  let (cursor, events) := s
  if context.body_end < cursor + 12 then return .inr (cursor, events)
  let event_id ← u16_at bytes cursor
  let raw_start_time ← range bytes (cursor + 2) (cursor + 7)
  let raw_duration ← range bytes (cursor + 7) (cursor + 10)
  let (timing_state, start, duration) ← classify_timing bytes (cursor + 2) (cursor + 7)
  let flags ← index bytes (cursor + 10)
  let desc_len := be12 flags (← index bytes (cursor + 11))
  let desc_start := cursor + 12
  let some desc_end := checked_add USIZE_MAX desc_start desc_len | return .inr (cursor, events)
  let descriptors ← event_descriptors tables bytes context.body_end desc_start desc_len desc_end
  let identity := if timing_state.has_stable_identity then
      some ⟨context.original_network_id, context.transport_stream_id, context.service_id, event_id⟩
    else none
  let event : EitEvent :=
    { diagnostics := event_diagnostics timing_state identity descriptors
      table_id := context.header.table_id
      version := context.header.version.getD 0
      section_number := context.header.section_number.getD 0
      last_section_number := context.header.last_section_number.getD 0
      scope := classify_table_id context.header.table_id
      service_id := context.service_id
      transport_stream_id := context.transport_stream_id
      original_network_id := context.original_network_id
      event_id, timing_state, raw_start_time, raw_duration
      start_time_millis := start.getD 0
      duration_millis := duration.getD 0
      free_ca_mode := (flags &&& 0x10) != 0
      descriptors }
  if context.body_end < desc_end then return .inr (cursor, events ++ [event])
  return .inl (desc_end, events ++ [event])

def parse_eit_section_facts (bytes : List UInt8) : Run EitSectionFacts := do
  let some header := ← read_section_header bytes | return {}
  if ¬ (0x4e ≤ header.table_id ∧ header.table_id ≤ 0x6f) ∨ bytes.length < header.total_length ∨
      header.section_length < 4 then return {}
  let body_end ← sub (3 + header.section_length) 4
  if bytes.length < 14 ∨ body_end < 14 then return {}
  let context : EitSectionContext :=
    { header
      service_id := ← u16_at bytes 3
      transport_stream_id := ← u16_at bytes 8
      original_network_id := ← u16_at bytes 10
      body_end }
  let (cursor, events) ← loop (event_turn tables bytes context) (bytes.length + 1) (14, [])
  return { events, event_loop_complete := cursor = body_end }

/-! ## Every section is read -/

theorem u16_at_eq {offset : Nat} (h : offset + 2 ≤ bytes.length) :
    u16_at bytes offset = .ok (be16 (byte bytes offset) (byte bytes (offset + 1))) := by
  unfold u16_at
  rw [index_bind (by omega), index_eq_byte (by omega)]
  rfl

theorem decode_duration_millis.spec {offset : Nat} (h : offset + 3 ≤ bytes.length) :
    Ends (decode_duration_millis bytes offset) := by
  refine index_then (by omega) fun hours => ?_
  split
  · refine index_then (by omega) fun minutes => ?_
    split
    · refine index_then (by omega) fun seconds => ?_
      split <;> exact .pure
    · exact .pure
  · exact .pure

theorem decode_mjd_bcd_millis.spec {offset : Nat} (h : offset + 5 ≤ bytes.length) :
    Ends (decode_mjd_bcd_millis bytes offset) := by
  refine (u16_at.spec (by omega)).bind fun mjd _ => ?_
  refine .unless fun _ => ?_
  refine index_then (by omega) fun hours => ?_
  split
  · refine index_then (by omega) fun minutes => ?_
    split
    · refine index_then (by omega) fun seconds => ?_
      split <;> exact .pure
    · exact .pure
  · exact .pure

theorem classify_timing.spec {start_offset duration_offset : Nat}
    (hstart : start_offset + 5 ≤ bytes.length) (hduration : duration_offset + 3 ≤ bytes.length) :
    Ends (classify_timing bytes start_offset duration_offset) := by
  refine (range_returns (by omega) hstart).bind fun start_bytes _ => ?_
  refine (range_returns (by omega) hduration).bind fun duration_bytes _ => ?_
  refine .unless fun _ => ?_
  have hread_start : Ends (unless_undefined (start_bytes.all (· = 0xff))
      (decode_mjd_bcd_millis bytes start_offset)) :=
    .unless fun _ => decode_mjd_bcd_millis.spec hstart
  have hread_duration : Ends (unless_undefined (duration_bytes.all (· = 0xff))
      (decode_duration_millis bytes duration_offset)) :=
    .unless fun _ => decode_duration_millis.spec hduration
  refine hread_start.bind fun start _ => ?_
  exact hread_duration.bind fun duration _ => .pure

theorem event_descriptors.spec {body_end desc_start desc_end : Nat} (desc_len : Nat)
    (hstart : desc_start ≤ body_end) (hend : desc_start ≤ desc_end)
    (hbody : body_end ≤ bytes.length) :
    Ends (event_descriptors tables bytes body_end desc_start desc_len desc_end) := by
  refine range_then (by omega) fun available => ?_
  refine (parse_event_descriptors.spec tables available).bind fun descriptors _ => ?_
  refine .ite (fun _ => ?_) fun _ => .pure
  exact (range_returns (by omega) hbody).then_pure

theorem event_turn.spec {context : EitSectionContext} (hbody : context.body_end ≤ bytes.length)
    (s : Nat × List EitEvent) :
    Returns (event_turn tables bytes context s)
      (Lowers (fun _ => True) (fun s => bytes.length - s.1) (fun _ => True) s) := by
  refine .leave trivial fun hinside => ?_
  refine (u16_at.spec (by omega)).bind fun event_id _ => ?_
  iterate 2 refine range_then (by omega) fun _ => ?_
  refine (classify_timing.spec (by omega) (by omega)).bind fun timing _ => ?_
  refine index_then (by omega) fun flags => ?_
  refine index_then (by omega) fun length_low => ?_
  cases hend : checked_add USIZE_MAX (s.1 + 12) (be12 flags length_low) with
  | none =>
    simp only [hend]
    exact .ok trivial
  | some desc_end =>
    simp only [hend]
    have hend := of_checked_add hend
    refine
      (event_descriptors.spec tables _ (by omega) (by omega) hbody).bind fun descriptors _ => ?_
    refine .leave trivial fun _ => ?_
    exact .ok ⟨trivial, by dsimp only; omega⟩

theorem parse_eit_section_facts.spec (bytes : List UInt8) :
    Ends (parse_eit_section_facts tables bytes) := by
  unfold parse_eit_section_facts
  rw [read_section_header.spec]
  cases hheader : parse_section_header bytes with
  | none => exact .pure
  | some header =>
    obtain ⟨htotal, hlen, hthree⟩ := total_length_le hheader
    refine .unless fun haccepted => ?_
    have hfour : 4 ≤ 3 + header.section_length := by omega
    refine (sub_returns hfour).bind fun body_end hbody => ?_
    refine .unless fun hshort => ?_
    iterate 3 refine (u16_at.spec (by omega)).bind fun _ _ => ?_
    refine (loop_returns (fun _ => True) (fun s => bytes.length - s.1)
      (fun s _ => event_turn.spec tables (by dsimp only; omega) s) trivial ?_).bind fun s _ => ?_
    · exact Nat.lt_succ_of_le (Nat.sub_le _ _)
    · exact .pure

end arib_si_engine_rs.eit

namespace arib_si_engine_rs.eit_instances

open arib_si_engine_rs.sections arib_si_engine_rs.descriptors arib_si_engine_rs.eit
open arib_si_engine_rs.arib_string (GraphicTables)

@[ext]
structure TableKey where
  table_id : UInt8
  (original_network_id transport_stream_id service_id : Nat)
  current : Bool
  deriving DecidableEq

/-- The fields in the order in which they are compared. -/
def TableKey.fields (key : TableKey) : Nat ×ₗ Nat ×ₗ Nat ×ₗ Nat ×ₗ Bool :=
  toLex (key.table_id.toNat, toLex (key.original_network_id,
    toLex (key.transport_stream_id, toLex (key.service_id, key.current))))

theorem TableKey.fields_injective : Function.Injective TableKey.fields := by
  intro a b h
  simp only [TableKey.fields, toLex_inj, Prod.mk.injEq, UInt8.toNat_inj] at h
  exact TableKey.ext h.1 h.2.1 h.2.2.1 h.2.2.2.1 h.2.2.2.2

instance : LinearOrder TableKey := LinearOrder.lift' TableKey.fields TableKey.fields_injective

/-! ## The Rust functions -/

structure Instance where
  tracker : SectionTracker := {}
  sections : OrdMap Nat (List EitEvent) := {}
  safe : OrdMap Nat Unit := {}
  segment_ends : OrdMap Nat UInt8 := {}

structure EitInstanceState where
  table_id : UInt8
  (original_network_id transport_stream_id service_id : Nat)
  version : UInt8
  current_next_indicator : Bool
  last_section_number : UInt8
  (received_sections missing_sections safe_sections : List Nat)
  complete : Bool
  inconsistent : Bool

structure EitInstances where
  instances : OrdMap TableKey Instance := {}

/-- Every event of the section could be read to its end. -/
def is_safe (facts : EitSectionFacts) : Bool :=
  facts.event_loop_complete && facts.events.all fun event =>
    event.diagnostics.all fun diagnostic => !diagnostic.parse_status.is_structural_error

def segment_start (number : UInt8) : Nat := (number &&& 0xf8).toNat

/-- The segment of a schedule section, which is inconsistent when its end is not one of this segment
or not the end that was known. -/
def Instance.mark_segment (entry : Instance) (number last stop : UInt8) : Instance :=
  let start := segment_start number
  let conflict := decide (stop < number) || decide (last < stop) || segment_start stop != start ||
    (entry.segment_ends.get start).any (· != stop)
  { entry with
    tracker := if conflict then { entry.tracker with inconsistent := true } else entry.tracker
    segment_ends := entry.segment_ends.insert start stop }

def Instance.take_facts (entry : Instance) (number : UInt8) (facts : EitSectionFacts) : Instance :=
  let safe := entry.safe.erase number.toNat
  { entry with
    safe := if is_safe facts then safe.insert number.toNat () else safe
    sections := entry.sections.insert number.toNat facts.events }

/-- The tracker sees the section. What belongs to another version goes before it does. -/
def Instance.observe (entry : Instance) (version number last : UInt8) (bytes : List UInt8) :
    Instance × Bool :=
  if !entry.tracker.accepts_version version then (entry, false)
  else
    let entry := if entry.tracker.version = some version then entry
      else { tracker := entry.tracker }
    let (tracker, fresh) := entry.tracker.observe version number last bytes
    ({ entry with tracker }, fresh)

variable (tables : GraphicTables)
  (entry : Instance) (store : EitInstances) (bytes : List UInt8) (inputs : List (List UInt8))

def Instance.ingest_schedule (table_id number last : UInt8) (bytes : List UInt8) : Run Instance :=
  if 0x50 ≤ table_id then do return entry.mark_segment number last (← index bytes 12)
  else pure entry

def Instance.ingest (table_id version number last : UInt8) (bytes : List UInt8) : Run Instance :=
  match entry.observe version number last bytes with
  | (entry, false) => pure entry
  | (entry, true) => do
    let entry ← entry.ingest_schedule table_id number last bytes
    return entry.take_facts number (← parse_eit_section_facts tables bytes)

def refuses (header : SectionHeader) : Bool :=
  !(decide (0x4e ≤ header.table_id) && decide (header.table_id ≤ 0x6f)) ||
    decide (bytes.length < 18) || header.total_length != bytes.length ||
    !section_crc_valid_with_header bytes header

namespace EitInstances

def ingest (store : EitInstances) (bytes : List UInt8) : Run EitInstances := do
  let some header := ← read_section_header bytes | return store
  if refuses bytes header then return store
  match header.version, header.section_number, header.last_section_number,
    header.current_next_indicator with
  | some version, some number, some last, some current =>
    let key : TableKey :=
      { table_id := header.table_id
        original_network_id := ← u16_at bytes 10
        transport_stream_id := ← u16_at bytes 8
        service_id := ← u16_at bytes 3
        current }
    let entry := (store.instances.get key).getD {}
    let entry ← entry.ingest tables header.table_id version number last bytes
    return { instances := store.instances.insert key entry }
  | _, _, _, _ => return store

variable (key : TableKey)

/-- The numbers of the sections that the sub-table must have, as far as its segments are known. -/
def required (entry : Instance) (n : Nat) : Bool :=
  let last := (entry.tracker.last_section_number.getD 0).toNat
  if key.table_id < 0x50 then decide (n ≤ last)
  else (List.range (last / 8 + 1)).any fun k =>
    decide (8 * k ≤ n) &&
      decide (n ≤ ((entry.segment_ends.get (8 * k)).map UInt8.toNat).getD (8 * k))

def missing (entry : Instance) : List Nat :=
  (List.range 256).filter fun n => required key entry n && (entry.sections.get n).isNone

def state (entry : Instance) : EitInstanceState :=
  { table_id := key.table_id
    original_network_id := key.original_network_id
    transport_stream_id := key.transport_stream_id
    service_id := key.service_id
    version := entry.tracker.version.getD 0
    current_next_indicator := key.current
    last_section_number := entry.tracker.last_section_number.getD 0
    received_sections := entry.sections.items.map Prod.fst
    missing_sections := missing key entry
    safe_sections := entry.safe.items.map Prod.fst
    complete := !entry.tracker.inconsistent && (missing key entry).isEmpty
    inconsistent := entry.tracker.inconsistent }

def states (store : EitInstances) : List EitInstanceState :=
  store.instances.items.map fun x => state x.1 x.2

def events (store : EitInstances) : List EitEvent :=
  (store.instances.items.filter (·.1.current)).flatMap fun x => x.2.sections.values.flatten

end EitInstances

/-! ## What the store takes from a section -/

/-- A section that the store takes, with the fields that it reads. -/
structure EitSection where
  key : TableKey
  (version number last stop : UInt8)
  bytes : List UInt8
  deriving DecidableEq

def section_of : Option EitSection :=
  match parse_section_header bytes with
  | none => none
  | some header =>
    if refuses bytes header then none
    else
      match header.version, header.section_number, header.last_section_number,
        header.current_next_indicator with
      | some version, some number, some last, some current =>
        some
          { key :=
              { table_id := header.table_id
                original_network_id := be16 (byte bytes 10) (byte bytes 11)
                transport_stream_id := be16 (byte bytes 8) (byte bytes 9)
                service_id := be16 (byte bytes 3) (byte bytes 4)
                current }
            version, number, last
            stop := byte bytes 12
            bytes }
      | _, _, _, _ => none

/-- The facts of a section, which the parser always gives. -/
def facts_of : EitSectionFacts :=
  match parse_eit_section_facts tables bytes with
  | .ok facts => facts
  | .error _ => {}

theorem facts_of.spec : parse_eit_section_facts tables bytes = .ok (facts_of tables bytes) := by
  obtain ⟨facts, hfacts, -⟩ := parse_eit_section_facts.spec tables bytes
  rw [facts_of, hfacts]

variable (sec : EitSection)

def Instance.schedule : Instance :=
  if 0x50 ≤ sec.key.table_id then entry.mark_segment sec.number sec.last sec.stop else entry

def Instance.took : Instance :=
  match entry.observe sec.version sec.number sec.last sec.bytes with
  | (entry, false) => entry
  | (entry, true) => (entry.schedule sec).take_facts sec.number (facts_of tables sec.bytes)

namespace EitInstances

def entry_of (store : EitInstances) (key : TableKey) : Instance :=
  (store.instances.get key).getD {}

def put (store : EitInstances) (sec : EitSection) : EitInstances :=
  { instances := store.instances.insert sec.key ((store.entry_of sec.key).took tables sec) }

end EitInstances

theorem Instance.ingest.spec (hstop : sec.stop = byte sec.bytes 12) (hlen : 18 ≤ sec.bytes.length) :
    entry.ingest tables sec.key.table_id sec.version sec.number sec.last sec.bytes =
      .ok (entry.took tables sec) := by
  unfold Instance.ingest Instance.took
  cases entry.observe sec.version sec.number sec.last sec.bytes with
  | mk entry fresh =>
    cases fresh with
    | false => rfl
    | true =>
      simp only [Instance.ingest_schedule, Instance.schedule, hstop,
        index_eq_byte (show 12 < sec.bytes.length by omega)]
      split
      · rw [facts_of.spec]
        rfl
      · rw [facts_of.spec]
        rfl

/-- On any bytes the store returns, with the section taken if there is one. -/
theorem EitInstances.ingest.spec :
    store.ingest tables bytes =
      .ok (match section_of bytes with
        | none => store
        | some sec => store.put tables sec) := by
  unfold EitInstances.ingest section_of
  rw [read_section_header.spec, ok_bind]
  cases parse_section_header bytes with
  | none => rfl
  | some header =>
    by_cases hrefuses : refuses bytes header = true
    · simp only [if_pos hrefuses]
      rfl
    simp only [if_neg hrefuses]
    have hlen : 18 ≤ bytes.length := by
      simp only [refuses, Bool.or_eq_true, decide_eq_true_eq] at hrefuses
      omega
    split
    · rw [u16_at_eq (by omega), ok_bind, u16_at_eq (by omega), ok_bind, u16_at_eq (by omega),
        ok_bind]
      rename_i version number last current _ _ _ _
      let key : TableKey :=
        ⟨header.table_id, be16 (byte bytes 10) (byte bytes 11), be16 (byte bytes 8) (byte bytes 9),
          be16 (byte bytes 3) (byte bytes 4), current⟩
      have hspec : (store.entry_of key).ingest tables header.table_id version number last bytes =
          .ok _ :=
        Instance.ingest.spec tables _ ⟨key, version, number, last, byte bytes 12, bytes⟩ rfl hlen
      exact congrArg (· >>= _) hspec
    · rfl

/-- Any sequence of inputs. -/
def EitInstances.ingest_all : Run EitInstances :=
  inputs.foldlM (EitInstances.ingest tables) store

/-- The sections that are in the inputs, one after the other. -/
def EitInstances.collect : EitInstances :=
  (inputs.filterMap section_of).foldl (EitInstances.put tables) store

theorem EitInstances.ingest_all.spec :
    store.ingest_all tables inputs = .ok (store.collect tables inputs) := by
  induction inputs generalizing store with
  | nil => rfl
  | cons bytes inputs ih =>
    unfold EitInstances.ingest_all
    rw [List.foldlM_cons, EitInstances.ingest.spec]
    cases hsec : section_of bytes with
    | none =>
      rw [EitInstances.collect, List.filterMap_cons_none hsec]
      exact ih store
    | some sec =>
      rw [EitInstances.collect, List.filterMap_cons_some hsec]
      exact ih (store.put tables sec)

end arib_si_engine_rs.eit_instances
