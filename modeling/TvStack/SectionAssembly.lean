-- The assembler of sections: `SectionAssembler` takes the payloads of the
-- packets of one PID and gives whole sections. A section may start and end
-- anywhere in a payload, and a payload may break it at any byte.
import TvStack.Loops
import TvStack.Words

open Words

namespace tuner_hal2_common

def MAX_ARIB_SHORT_SECTION_LENGTH : Nat := 1021
def MAX_ARIB_EIT_SECTION_LENGTH : Nat := 4093
def ARIB_TDT_SECTION_LENGTH : Nat := 5
def MAX_ARIB_SECTION_TOTAL_BYTES : Nat := 3 + MAX_ARIB_EIT_SECTION_LENGTH
def MAX_SECTION_PAYLOAD_BYTES : Nat := MAX_ARIB_SECTION_TOTAL_BYTES

def max_arib_section_length_for_table_id (table_id : UInt8) : Nat :=
  if table_id = 0x70 then ARIB_TDT_SECTION_LENGTH
  else if table_id ≤ 0x03 ∨ table_id ∈ [0x40, 0x41, 0x42, 0x46, 0x4a, 0x71, 0x73] then
    MAX_ARIB_SHORT_SECTION_LENGTH
  else MAX_ARIB_EIT_SECTION_LENGTH

def is_valid_arib_section_length (table_id : UInt8) (section_length : Nat) : Bool :=
  if table_id = 0x70 then section_length == ARIB_TDT_SECTION_LENGTH
  else decide (section_length ≤ max_arib_section_length_for_table_id table_id)

end tuner_hal2_common

namespace tuner_hal2_demux

open tuner_hal2_common

structure SectionHeader where
  table_id : UInt8
  syntax_indicator : Bool
  section_length : Nat
  total_length : Nat
  table_id_extension : Option UInt16
  version : Option UInt8
  current_next_indicator : Option Bool
  (section_number last_section_number : Option UInt8)

/-! ## The Rust functions -/

def normalize_length_field_bits (bits : Int) : Option Int :=
  if bits = 0 ∨ bits = 12 then some 12 else none

variable (bytes : List UInt8) (length_field_bits : Int) (require_reserved_bits : Bool)

/-- The section length in the second and the third byte. -/
def declared_section_length : Nat :=
  ((byte bytes 1 &&& 0x0f).toNat <<< 8) ||| (byte bytes 2).toNat

def declared_total_length : Nat := 3 + declared_section_length bytes

/-- The section syntax indicator in the second byte. -/
def syntax_set : Bool := (byte bytes 1 &&& 0x80) != 0

def parse_section_header_with_reserved_bit_policy : Option SectionHeader :=
  match normalize_length_field_bits length_field_bits with
  | none => none
  | some normalized =>
    if normalized ≠ 12 ∨ bytes.length < 3 then none
    else if require_reserved_bits ∧ (byte bytes 1 &&& 0x30) ≠ 0x30 then none
    else if ¬ is_valid_arib_section_length (byte bytes 0) (declared_section_length bytes) then none
    else if declared_total_length bytes > MAX_SECTION_PAYLOAD_BYTES then none
    else if syntax_set bytes ∧
        (declared_section_length bytes < 9 ∨ declared_total_length bytes < 12) then none
    else if bytes.length < declared_total_length bytes then none
    else if syntax_set bytes then
      if require_reserved_bits ∧ (byte bytes 5 &&& 0xc0) ≠ 0xc0 then none
      else some
        { table_id := byte bytes 0
          syntax_indicator := syntax_set bytes
          section_length := declared_section_length bytes
          total_length := declared_total_length bytes
          table_id_extension :=
            some (((byte bytes 3).toUInt16 <<< 8) ||| (byte bytes 4).toUInt16)
          version := some ((byte bytes 5 >>> 1) &&& 0x1f)
          current_next_indicator := some ((byte bytes 5 &&& 0x01) ≠ 0)
          section_number := some (byte bytes 6)
          last_section_number := some (byte bytes 7) }
    else some
      { table_id := byte bytes 0
        syntax_indicator := syntax_set bytes
        section_length := declared_section_length bytes
        total_length := declared_total_length bytes
        table_id_extension := none
        version := none
        current_next_indicator := none
        section_number := none
        last_section_number := none }

def parse_section_header : Option SectionHeader :=
  parse_section_header_with_reserved_bit_policy bytes length_field_bits true

/-- The check of the assembler on the first three bytes. -/
def invalid_declared_header : Bool :=
  (require_reserved_bits && (byte bytes 1 &&& 0x30) != 0x30) ||
    !is_valid_arib_section_length (byte bytes 0) (declared_section_length bytes) ||
    declared_total_length bytes > MAX_SECTION_PAYLOAD_BYTES ||
    (syntax_set bytes &&
      (declared_section_length bytes < 9 || declared_total_length bytes < 12))

/-! ## What the first bytes decide -/

section first_bytes

variable {bytes : List UInt8} (more : List UInt8) (h : 3 ≤ bytes.length)

include h

theorem section_length_append :
    declared_section_length (bytes ++ more) = declared_section_length bytes := by
  simp only [declared_section_length, byte_append_left more (show 1 < bytes.length by omega),
    byte_append_left more (show 2 < bytes.length by omega)]

theorem total_length_append :
    declared_total_length (bytes ++ more) = declared_total_length bytes := by
  simp only [declared_total_length, section_length_append more h]

theorem syntax_set_append : syntax_set (bytes ++ more) = syntax_set bytes := by
  simp only [syntax_set, byte_append_left more (show 1 < bytes.length by omega)]

theorem invalid_declared_header_append (b : Bool) :
    invalid_declared_header (bytes ++ more) b = invalid_declared_header bytes b := by
  simp only [invalid_declared_header, section_length_append more h, total_length_append more h,
    syntax_set_append more h, byte_append_left more (show 0 < bytes.length by omega),
    byte_append_left more (show 1 < bytes.length by omega)]

end first_bytes

/-- The reserved bits of the version byte, where the section has one. -/
def version_bits_refused : Prop :=
  syntax_set bytes ∧ require_reserved_bits ∧ (byte bytes 5 &&& 0xc0) ≠ 0xc0

/-- What the parser accepts: the checks of the assembler on the first three bytes, a whole
section, and the reserved bits of its version byte. -/
theorem parse_section_header.spec (b : Bool) (h : SectionHeader)
    (hparse : parse_section_header_with_reserved_bit_policy bytes 12 b = some h) :
    h.total_length = declared_total_length bytes ∧ 3 ≤ bytes.length ∧
      invalid_declared_header bytes b = false ∧ declared_total_length bytes ≤ bytes.length ∧
      ¬ version_bits_refused bytes b := by
  unfold parse_section_header_with_reserved_bit_policy at hparse
  simp only [normalize_length_field_bits, or_true, if_true] at hparse
  iterate 6
    split at hparse
    · cases hparse
  have hdeclared : invalid_declared_header bytes b = false := by
    simp_all [invalid_declared_header]
  split at hparse
  · split at hparse
    · cases hparse
    rename_i hbits
    cases hparse
    exact ⟨rfl, by omega, hdeclared, by omega, fun hr => hbits hr.2⟩
  · rename_i hset
    cases hparse
    exact ⟨rfl, by omega, hdeclared, by omega, fun hr => hset hr.1⟩

/-- All that the parser asks for. -/
theorem parse_section_header.accepts (b : Bool) (hlen : 3 ≤ bytes.length)
    (hdeclared : invalid_declared_header bytes b = false)
    (hwhole : declared_total_length bytes ≤ bytes.length) (hbits : ¬ version_bits_refused bytes b) :
    (parse_section_header_with_reserved_bit_policy bytes 12 b).isSome := by
  simp only [invalid_declared_header, Bool.or_eq_false_iff, decide_eq_false_iff_not] at hdeclared
  obtain ⟨⟨⟨hreserved, hvalid⟩, hmax⟩, hsyntax⟩ := hdeclared
  have hr : ¬ (b = true ∧ (byte bytes 1 &&& 0x30) ≠ 0x30) := by grind
  have hs : ¬ (syntax_set bytes = true ∧
      (declared_section_length bytes < 9 ∨ declared_total_length bytes < 12)) := by grind
  unfold parse_section_header_with_reserved_bit_policy
  simp only [normalize_length_field_bits, or_true, if_true]
  rw [if_neg (by omega), if_neg hr, if_neg (by simpa using hvalid), if_neg hmax, if_neg hs,
    if_neg (by omega)]
  split
  · rename_i hset
    rw [if_neg fun h => hbits ⟨hset, h⟩]
    rfl
  · rfl

end tuner_hal2_demux

open Loops

namespace tuner_hal2_demux

open tuner_hal2_common

structure SectionPushOutcome where
  sections : List (List UInt8)
  oversized_section_drop_delta : Nat
  stale_partial_discard_delta : Nat
  oversized_section_counter_saturated : Bool
  stale_partial_counter_saturated : Bool

def SectionPushOutcome.has_drop_or_discard (o : SectionPushOutcome) : Bool :=
  o.oversized_section_drop_delta > 0 || o.stale_partial_discard_delta > 0

structure SectionAssembler where
  expected_len : Option Nat := none
  buf : List UInt8 := []
  oversized_section_drops : Nat := 0
  stale_partial_section_discards : Nat := 0
  oversized_section_drop_counter_saturated : Bool := false
  stale_partial_section_discard_counter_saturated : Bool := false

namespace SectionAssembler

/-! ## The assembler -/

/-- The assembler and the sections it gave so far in this call. -/
structure TakeVars where
  assembler : SectionAssembler
  out : List (List UInt8)

variable (a : SectionAssembler) (v : TakeVars) (payload_unit_start : Bool) (payload : List UInt8)
  (require_reserved_bits : Bool)

def reset : SectionAssembler := { a with expected_len := none, buf := [] }

def increment_oversized_section_drops : SectionAssembler :=
  match checked_add U64_MAX a.oversized_section_drops 1 with
  | some next => { a with oversized_section_drops := next }
  | none => { a with oversized_section_drop_counter_saturated := true }

def increment_stale_partial_section_discards : SectionAssembler :=
  match checked_add U64_MAX a.stale_partial_section_discards 1 with
  | some next => { a with stale_partial_section_discards := next }
  | none => { a with stale_partial_section_discard_counter_saturated := true }

def set_expected_len_or_drop (expected_len : Nat) : SectionAssembler × Bool :=
  if expected_len > MAX_SECTION_PAYLOAD_BYTES then
    (a.increment_oversized_section_drops.reset, false)
  else ({ a with expected_len := some expected_len }, true)

/-- `!self.buf.is_empty() || self.expected_len.is_some()` -/
def pending : Bool := !a.buf.isEmpty || a.expected_len.isSome

/-- The first half of a turn of `try_take_pending`: the header of the pending bytes, once it is
there. A refused header ends the loop. -/
def declare_pending : ForInStep SectionAssembler :=
  if a.expected_len.isNone && a.buf.length ≥ 3 then
    if invalid_declared_header a.buf require_reserved_bits then
      .done a.increment_oversized_section_drops.reset
    else
      let r := a.set_expected_len_or_drop (declared_total_length a.buf)
      if r.2 then .yield r.1 else .done r.1.increment_oversized_section_drops.reset
  else .yield a

/-- A section is taken from the front of the pending bytes. -/
def take_section (expected_len : Nat) (require_reserved_bits : Bool) : TakeVars :=
  let bytes := v.assembler.buf.take expected_len
  let a := { v.assembler with buf := v.assembler.buf.drop expected_len, expected_len := none }
  if (parse_section_header_with_reserved_bit_policy bytes 12 require_reserved_bits).isSome then
    ⟨a, v.out ++ [bytes]⟩
  else ⟨a.increment_oversized_section_drops, v.out⟩

/-- The end of a turn: the loop goes on with the bytes behind the section, if there are any and
they are no stuffing. -/
def next_pending : ForInStep TakeVars :=
  if v.assembler.buf.isEmpty then .done v
  else if byte v.assembler.buf 0 = 0xff then .done { v with assembler := v.assembler.reset }
  else .yield v

def try_take_turn (v : TakeVars) : ForInStep TakeVars :=
  match declare_pending v.assembler require_reserved_bits with
  | .done a => .done { v with assembler := a }
  | .yield a =>
    match a.expected_len with
    | none => .done { v with assembler := a }
    | some expected_len =>
      if a.buf.length < expected_len then .done { v with assembler := a }
      else next_pending (take_section { v with assembler := a } expected_len require_reserved_bits)

def try_take_size : Nat :=
  2 * v.assembler.buf.length + if v.assembler.expected_len.isSome then 1 else 0

def try_take_pending (out : List (List UInt8)) (require_reserved_bits : Bool) : TakeVars :=
  loop (try_take_turn require_reserved_bits) try_take_size ⟨a, out⟩

/-- The variables of the loop over a payload. `remaining` is `&payload[cursor..]`. -/
structure SectionVars extends TakeVars where
  remaining : List UInt8

def section_turn (v : SectionVars) : ForInStep SectionVars :=
  if v.remaining.isEmpty then .done v
  else if byte v.remaining 0 = 0xff then .done v
  else if v.remaining.length < 3 then
    .done { v with assembler :=
      { v.assembler with buf := v.assembler.buf ++ v.remaining, expected_len := none } }
  else if invalid_declared_header v.remaining require_reserved_bits then
    .yield { v with
      assembler := v.assembler.increment_oversized_section_drops,
      remaining := v.remaining.drop 1 }
  else
    let total_length := declared_total_length v.remaining
    if v.remaining.length ≥ total_length then
      if (parse_section_header_with_reserved_bit_policy v.remaining 12
          require_reserved_bits).isSome then
        .yield { v with
          out := v.out ++ [v.remaining.take total_length],
          remaining := v.remaining.drop total_length }
      else
        .yield { v with
          assembler := v.assembler.increment_oversized_section_drops,
          remaining := v.remaining.drop 1 }
    else
      let a := { v.assembler with buf := v.assembler.buf ++ v.remaining }
      .done { v with assembler := (a.set_expected_len_or_drop total_length).1 }

/-- The bytes before the boundary of a payload with a unit start. They end the pending section,
and what is still pending behind them is discarded. -/
def finish_at_boundary (tail : List UInt8) (require_reserved_bits : Bool) : TakeVars :=
  if a.pending then
    let v : TakeVars :=
      if tail.length > 0 then
        try_take_pending { a with buf := a.buf ++ tail } [] require_reserved_bits
      else ⟨a, []⟩
    if v.assembler.pending then
      { v with assembler := v.assembler.increment_stale_partial_section_discards.reset }
    else v
  else ⟨a, []⟩

/-- The bytes from the cursor on. -/
def push_remaining (remaining : List UInt8) (require_reserved_bits : Bool) : TakeVars :=
  if remaining.isEmpty then v
  else if v.assembler.pending then
    try_take_pending { v.assembler with buf := v.assembler.buf ++ remaining } v.out
      require_reserved_bits
  else
    (loop (section_turn require_reserved_bits) (fun v => v.remaining.length)
      { v with remaining }).toTakeVars

def push_payload_with_reserved_bit_policy : TakeVars :=
  if payload.isEmpty then ⟨a, []⟩
  else if payload_unit_start then
    let pointer := (byte payload 0).toNat
    if 1 + pointer > payload.length then ⟨a.reset, []⟩
    else
      push_remaining
        (a.finish_at_boundary ((payload.drop 1).take pointer) require_reserved_bits)
        (payload.drop (1 + pointer)) require_reserved_bits
  else if !a.pending then ⟨a, []⟩
  else push_remaining ⟨a, []⟩ payload require_reserved_bits

def push_payload_with_outcome_policy : SectionAssembler × SectionPushOutcome :=
  let v := a.push_payload_with_reserved_bit_policy payload_unit_start payload
    require_reserved_bits
  (v.assembler,
    { sections := v.out
      oversized_section_drop_delta :=
        v.assembler.oversized_section_drops - a.oversized_section_drops
      stale_partial_discard_delta :=
        v.assembler.stale_partial_section_discards - a.stale_partial_section_discards
      oversized_section_counter_saturated :=
        !a.oversized_section_drop_counter_saturated &&
          v.assembler.oversized_section_drop_counter_saturated
      stale_partial_counter_saturated :=
        !a.stale_partial_section_discard_counter_saturated &&
          v.assembler.stale_partial_section_discard_counter_saturated })

def push_payload_with_outcome : SectionAssembler × SectionPushOutcome :=
  a.push_payload_with_outcome_policy payload_unit_start payload true

/-! ## The loops end -/

theorem declared_total_length_pos (bytes : List UInt8) : 3 ≤ declared_total_length bytes := by
  unfold declared_total_length
  omega

/-- All that the first half of a turn can do when the loop goes on. -/
theorem declare_pending_yield {a c : SectionAssembler} {b : Bool}
    (h : declare_pending a b = .yield c) :
    c = a ∨ (a.expected_len = none ∧
      c = { a with expected_len := some (declared_total_length a.buf) }) := by
  unfold declare_pending at h
  split at h
  · rename_i hnone
    simp only [Bool.and_eq_true, Option.isNone_iff_eq_none] at hnone
    split at h
    · cases h
    unfold set_expected_len_or_drop at h
    split at h
    · simp only [if_false, reduceCtorEq] at h
    · simp only [if_true, ForInStep.yield.injEq] at h
      exact .inr ⟨hnone.1, h.symm⟩
  · cases h
    exact .inl rfl

theorem take_section.frame (n : Nat) (b : Bool) :
    (take_section v n b).assembler.buf = v.assembler.buf.drop n ∧
      (take_section v n b).assembler.expected_len = none := by
  unfold take_section
  dsimp only
  split
  · exact ⟨rfl, rfl⟩
  · unfold increment_oversized_section_drops
    split <;> exact ⟨rfl, rfl⟩

theorem next_pending_yield {v w : TakeVars} (h : next_pending v = .yield w) : w = v := by
  unfold next_pending at h
  split at h
  · cases h
  split at h
  · cases h
  · cases h
    rfl

/-- A turn that goes on takes bytes, or forgets an expected length. -/
theorem try_take_turn_lowers (b : Bool) : Lowers (try_take_turn b) try_take_size := by
  intro v w h
  unfold try_take_turn at h
  split at h
  · cases h
  rename_i a ha
  split at h
  · cases h
  rename_i n hn
  split at h
  · cases h
  rename_i hlen
  rw [next_pending_yield h]
  obtain ⟨hbuf, hnone⟩ := take_section.frame { v with assembler := a } n b
  rcases declare_pending_yield ha with rfl | ⟨hv, rfl⟩
  · simp only [try_take_size, hbuf, hnone, hn, List.length_drop, Option.isSome_none,
      Option.isSome_some, Bool.false_eq_true, if_true, if_false]
    omega
  · have hpos := declared_total_length_pos v.assembler.buf
    simp only [Option.some.injEq] at hn
    simp only [try_take_size, hbuf, hnone, List.length_drop, Option.isSome_none,
      Bool.false_eq_true, if_false]
    dsimp only at hlen
    omega

theorem section_turn_lowers (b : Bool) : Lowers (section_turn b) (fun v => v.remaining.length) := by
  intro v w h
  unfold section_turn at h
  split at h
  · cases h
  have htotal := declared_total_length_pos v.remaining
  split at h
  · cases h
  split at h
  · cases h
  split at h
  · cases h
    simp only [List.length_drop]
    omega
  dsimp only at h
  split at h
  · split at h
    · cases h
      simp only [List.length_drop]
      omega
    · cases h
      simp only [List.length_drop]
      omega
  · cases h

end SectionAssembler

end tuner_hal2_demux
