-- The sections of the service information: their headers and check sums, which
-- sections of which table version a tracker keeps, and whether the descriptor loops
-- of a section are well formed.
import TvStack.Items
import TvStack.Maps
import TvStack.Words

open Items Words

namespace arib_si_engine_rs.sections

/-! ## The tracker of a table -/

structure SectionTracker where
  version : Option UInt8 := none
  last_section_number : Option UInt8 := none
  seen_sections : List UInt8 := []
  inconsistent : Bool := false
  payloads : FinMap UInt8 (List UInt8) := .empty

namespace SectionTracker

variable (t : SectionTracker)

/-- A version is taken when it is ahead by less than half of the circle of 32. -/
def accepts_version (version : UInt8) : Bool :=
  match t.version with
  | none => true
  | some old => decide ((version.toNat + 32 - old.toNat) % 32 < 16)

def mark_seen (version section_number last_section_number : UInt8) : SectionTracker :=
  let t := if t.version = some version then t else { version := some version }
  if last_section_number < section_number then { t with inconsistent := true }
  else
    match t.last_section_number with
    | some expected =>
      if expected ≠ last_section_number then { t with inconsistent := true }
      else { t with seen_sections := t.seen_sections.insert section_number }
    | none =>
      { t with
        last_section_number := some last_section_number
        seen_sections := t.seen_sections.insert section_number }

/-- A section of a version that is accepted. If it is new, its bytes are kept. -/
def keep (version section_number last : UInt8) (bytes : List UInt8) : SectionTracker × Bool :=
  let t := t.mark_seen version section_number last
  match t.payloads.get section_number with
  | some previous =>
    (if previous ≠ bytes then { t with inconsistent := true } else t, false)
  | none =>
    if t.inconsistent then (t, false)
    else ({ t with payloads := t.payloads.insert section_number bytes }, true)

def observe (version section_number last : UInt8) (bytes : List UInt8) : SectionTracker × Bool :=
  if ¬ t.accepts_version version then (t, false) else t.keep version section_number last bytes

end SectionTracker

/-! ## Headers and check sums -/

structure SectionHeader where
  table_id : UInt8
  syntax_indicator : Bool
  section_length : Nat
  total_length : Nat
  table_id_extension : Option Nat
  version : Option UInt8
  current_next_indicator : Option Bool
  (section_number last_section_number : Option UInt8)

variable (bytes : List UInt8)

def parse_section_header : Option SectionHeader :=
  if bytes.length < 3 then none
  else
    let section_length := be12 (byte bytes 1) (byte bytes 2)
    let total_length := 3 + section_length
    if bytes.length < total_length then none
    else if (byte bytes 1 &&& 0x80) != 0 then
      if total_length < 8 then none
      else some
        { table_id := byte bytes 0
          syntax_indicator := true
          section_length
          total_length
          table_id_extension := some (be16 (byte bytes 3) (byte bytes 4))
          version := some ((byte bytes 5 >>> 1) &&& 0x1f)
          current_next_indicator := some ((byte bytes 5 &&& 0x01) != 0)
          section_number := some (byte bytes 6)
          last_section_number := some (byte bytes 7) }
    else some
      { table_id := byte bytes 0
        syntax_indicator := false
        section_length
        total_length
        table_id_extension := none
        version := none
        current_next_indicator := none
        section_number := none
        last_section_number := none }

/-- One bit of the division by the polynomial. -/
def crc32_shift (crc : UInt32) : UInt32 :=
  if (crc &&& 0x80000000) != 0 then (crc <<< 1) ^^^ 0x04c11db7 else crc <<< 1

def crc32_mpeg : UInt32 :=
  bytes.foldl (fun crc b => crc32_shift^[8] (crc ^^^ (b.toUInt32 <<< (24 : UInt32)))) 0xffffffff

def section_crc_valid_with_header (header : SectionHeader) : Bool :=
  if header.section_length < 4 ∨ bytes.length < header.total_length then false
  else crc32_mpeg (bytes.take header.total_length) == 0

def section_crc_valid : Bool :=
  match parse_section_header bytes with
  | none => false
  | some header => section_crc_valid_with_header bytes header

/-! ## Descriptor loops -/

/-- The bytes from `start` up to `stop`. -/
def slice (start stop : Nat) : List UInt8 := (bytes.take stop).drop start

/-- The next descriptor of a loop: its tag and its body. -/
def next_descriptor : List UInt8 → Option ((UInt8 × List UInt8) × List UInt8) :=
  sized 2 (fun header => (byte header 1).toNat) fun header body => (byte header 0, body)

def descriptor_loop_well_formed : Bool := (cut next_descriptor bytes).2.isEmpty

def section_body_end : Option Nat :=
  match parse_section_header bytes with
  | none => none
  | some header =>
    if header.section_length < 4 ∨ bytes.length < header.total_length then none
    else some (3 + header.section_length - 4)

/-- A loop of items, each with a header of `size` bytes and a descriptor loop whose length is in
the header at `len_at`. It is malformed when an item is cut or one of its descriptors is. -/
def items_malformed (size len_at : Nat) (bytes : List UInt8) : Bool :=
  let items := cut (sized size (fun header => be12 (byte header len_at) (byte header (len_at + 1)))
    fun _ descriptors => descriptors) bytes
  !items.2.isEmpty || items.1.any fun descriptors => !descriptor_loop_well_formed descriptors

def pmt_malformed (body_end : Nat) : Bool :=
  let program_info_end := 12 + be12 (byte bytes 10) (byte bytes 11)
  decide (bytes.length < 12) || decide (body_end < 12) || decide (bytes.length < body_end) ||
    decide (body_end < program_info_end) ||
    !descriptor_loop_well_formed (slice bytes 12 program_info_end) ||
    items_malformed 5 3 (slice bytes program_info_end body_end)

/-- A NIT or a BAT: a descriptor loop of its own, then the loop of the transports. -/
def transport_loop_malformed (body_end : Nat) : Bool :=
  let desc_end := 10 + be12 (byte bytes 8) (byte bytes 9)
  let transport_end := desc_end + 2 + be12 (byte bytes desc_end) (byte bytes (desc_end + 1))
  decide (bytes.length < 10) || decide (body_end < 10) || decide (body_end < desc_end) ||
    !descriptor_loop_well_formed (slice bytes 10 desc_end) || decide (body_end < desc_end + 2) ||
    decide (body_end < transport_end) ||
      items_malformed 6 4 (slice bytes (desc_end + 2) transport_end)

def section_has_malformed_descriptor_loop (pid : Nat) (table_id : UInt8) (bytes : List UInt8)
    (known_pmt_pid : Bool) : Bool :=
  match section_body_end bytes with
  | none => true
  | some body_end =>
    if pid = 0x0001 ∧ table_id = 0x01 then
      decide (bytes.length < 8) || decide (body_end < 8) ||
        !descriptor_loop_well_formed (slice bytes 8 body_end)
    else if table_id = 0x02 ∧ known_pmt_pid then pmt_malformed bytes body_end
    else if pid = 0x0010 ∧ (table_id = 0x40 ∨ table_id = 0x41) then
      transport_loop_malformed bytes body_end
    else if pid = 0x0011 ∧ (table_id = 0x42 ∨ table_id = 0x46) then
      decide (bytes.length < 11) || decide (body_end < 11) ||
        items_malformed 5 3 (slice bytes 11 body_end)
    else if pid = 0x0011 ∧ table_id = 0x4a then transport_loop_malformed bytes body_end
    else false

end arib_si_engine_rs.sections

namespace arib_si_engine_rs.sections.SectionTracker

variable {t : SectionTracker} {version number last : UInt8} {bytes : List UInt8}

/-- What a tracker keeps when a section of this version comes. -/
def kept (t : SectionTracker) (version : UInt8) : FinMap UInt8 (List UInt8) :=
  if t.version = some version then t.payloads else .empty

/-- Nothing that the tracker has of this version contradicts the section. -/
structure Consistent (t : SectionTracker) (version number last : UInt8) (bytes : List UInt8) :
    Prop where
  in_order : number ≤ last
  marked : t.version = some version → t.inconsistent = false
  last_kept : t.version = some version → ∀ l, t.last_section_number = some l → l = last
  kept : ∀ p, (t.kept version).get number = some p → p = bytes

instance : Decidable (t.Consistent version number last bytes) :=
  decidable_of_iff (number ≤ last ∧ (t.version = some version → t.inconsistent = false) ∧
      (t.version = some version → t.last_section_number.all (· = last)) ∧
      ∀ p ∈ (t.kept version).get number, p = bytes)
    ⟨fun ⟨ho, hm, hl, hk⟩ => ⟨ho, hm, fun h => by simpa [Option.all_eq_true] using hl h, hk⟩,
      fun ⟨ho, hm, hl, hk⟩ => ⟨ho, hm, fun h => by simpa [Option.all_eq_true] using hl h, hk⟩⟩

/-- A tracker that marks a section is at its version. -/
theorem mark_seen_kept (t : SectionTracker) (version number last : UInt8) :
    (t.mark_seen version number last).version = some version ∧
      (t.mark_seen version number last).payloads = t.kept version := by
  unfold mark_seen kept
  by_cases hversion : t.version = some version
  · simp only [hversion, if_true]
    split
    · exact ⟨rfl, rfl⟩
    split
    · split <;> exact ⟨rfl, rfl⟩
    · exact ⟨rfl, rfl⟩
  · simp only [if_neg hversion]
    split <;> exact ⟨rfl, rfl⟩

theorem Consistent.mark_seen (h : t.Consistent version number last bytes) :
    (t.mark_seen version number last).last_section_number = some last ∧
      (t.mark_seen version number last).inconsistent = false := by
  have horder : ¬ last < number := UInt8.not_lt.mpr h.in_order
  unfold SectionTracker.mark_seen
  by_cases hversion : t.version = some version
  · simp only [hversion, if_neg horder]
    split
    · rename_i l hl
      obtain rfl := h.last_kept hversion l hl
      simp only [ne_eq]
      exact ⟨hl, h.marked hversion⟩
    · exact ⟨rfl, h.marked hversion⟩
  · simp only [hversion, if_false, if_neg horder, and_self]

/-- A tracker that accepts a section is at its version, and has it only if it is new. -/
theorem observe_kept (t : SectionTracker) (haccepts : t.accepts_version version) :
    (t.observe version number last bytes).1.version = some version ∧
      ∀ {m p}, (t.observe version number last bytes).1.payloads.get m = some p →
        (p = bytes ∧ (t.observe version number last bytes).2 = true) ∨
          t.payloads.get m = some p := by
  obtain ⟨hversion, hpayloads⟩ := mark_seen_kept t version number last
  have hkept : ∀ {m p}, (t.mark_seen version number last).payloads.get m = some p →
      t.payloads.get m = some p := by
    intro m p hp
    rw [hpayloads, kept] at hp
    split at hp
    · exact hp
    · exact absurd hp FinMap.get_empty_ne
  unfold observe keep
  rw [if_neg (not_not_intro haccepts)]
  dsimp only
  split
  · split <;> exact ⟨hversion, fun hp => .inr (hkept hp)⟩
  split
  · exact ⟨hversion, fun hp => .inr (hkept hp)⟩
  refine ⟨hversion, fun {m p} hp => ?_⟩
  rcases FinMap.get_of_insert hp with ⟨-, rfl⟩ | ⟨-, hp⟩
  · exact .inl ⟨rfl, rfl⟩
  · exact .inr (hkept hp)

/-- A consistent section is kept, and it is new if it was not there. -/
theorem observe.spec (haccepts : t.accepts_version version)
    (h : t.Consistent version number last bytes) :
    (t.observe version number last bytes).1.version = some version ∧
      (t.observe version number last bytes).1.last_section_number = some last ∧
      (t.observe version number last bytes).1.inconsistent = false ∧
      (∀ m, (t.observe version number last bytes).1.payloads.get m =
        if m = number then some bytes else (t.kept version).get m) ∧
      (t.observe version number last bytes).2 = decide ((t.kept version).get number = none) := by
  obtain ⟨hversion, hpayloads⟩ := mark_seen_kept t version number last
  obtain ⟨hlast, hmarked⟩ := h.mark_seen
  unfold observe keep
  rw [if_neg (not_not_intro haccepts)]
  dsimp only
  rw [hpayloads]
  cases hkept : (t.kept version).get number with
  | some previous =>
    obtain rfl := h.kept previous hkept
    simp only [ne_eq, not_true_eq_false, if_false]
    refine ⟨hversion, hlast, hmarked, fun m => ?_, rfl⟩
    rw [hpayloads]
    split
    · rename_i hm
      rw [hm, hkept]
    · rfl
  | none =>
    simp only [hmarked, Bool.false_eq_true, if_false]
    refine ⟨hversion, hlast, trivial, fun m => ?_, rfl⟩
    exact FinMap.get_insert number bytes m

end arib_si_engine_rs.sections.SectionTracker
