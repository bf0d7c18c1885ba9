-- Section assembly undoes packetization: over every legal division of a list
-- of sections into payloads, a fresh assembler gives back exactly that list.
import TvStack.Machines
import TvStack.SectionAssembly

open List Loops Machines Words

namespace tuner_hal2_demux

open tuner_hal2_common

namespace SectionAssembler

variable {b : Bool} {part rest tail old : List UInt8} {a : SectionAssembler}

/-! ## Sections that the parser accepts -/

/-- The parser accepts the bytes as one whole section, and they do not start like stuffing. -/
def Accepted (b : Bool) (bytes : List UInt8) : Prop :=
  (∃ h, parse_section_header_with_reserved_bit_policy bytes 12 b = some h ∧
    h.total_length = bytes.length) ∧ byte bytes 0 ≠ 0xff

section accepted

variable {b : Bool} {bytes : List UInt8} (h : Accepted b bytes)

include h

theorem Accepted.length_ge : 3 ≤ bytes.length := by
  obtain ⟨⟨header, hparse, _⟩, _⟩ := h
  exact (parse_section_header.spec bytes b header hparse).2.1

theorem Accepted.declared :
    invalid_declared_header bytes b = false ∧ declared_total_length bytes = bytes.length := by
  obtain ⟨⟨header, hparse, htotal⟩, _⟩ := h
  obtain ⟨h1, _, h3, _, _⟩ := parse_section_header.spec bytes b header hparse
  exact ⟨h3, by rw [← h1, htotal]⟩

theorem Accepted.length_le : bytes.length ≤ MAX_SECTION_PAYLOAD_BYTES := by
  obtain ⟨h1, h2⟩ := h.declared
  simp only [invalid_declared_header, Bool.or_eq_false_iff, decide_eq_false_iff_not] at h1
  rw [← h2]
  exact Nat.le_of_not_lt h1.1.2

/-- The bytes behind a section do not change how it parses. -/
theorem Accepted.parse_append (more : List UInt8) :
    (parse_section_header_with_reserved_bit_policy (bytes ++ more) 12 b).isSome := by
  have hlen := h.length_ge
  obtain ⟨h1, h2⟩ := h.declared
  obtain ⟨⟨header, hparse, _⟩, _⟩ := h
  obtain ⟨_, _, _, _, hbits⟩ := parse_section_header.spec bytes b header hparse
  refine parse_section_header.accepts (bytes ++ more) b ?_ ?_ ?_ ?_
  · rw [length_append]; omega
  · rw [invalid_declared_header_append more hlen, h1]
  · rw [total_length_append more hlen, length_append]; omega
  · rintro ⟨hset, hb, hne⟩
    rw [syntax_set_append more hlen] at hset
    -- a section with the syntax indicator is long enough to have its version byte
    have h12 : 12 ≤ bytes.length := by
      simp only [invalid_declared_header, hset, Bool.true_and, Bool.or_eq_false_iff,
        decide_eq_false_iff_not] at h1
      omega
    rw [byte_append_left more (by omega)] at hne
    exact hbits ⟨hset, hb, hne⟩

/-- A part of a section that holds the first three bytes declares the length of the section. -/
theorem Accepted.part_declared {part more rest : List UInt8} (heq : part ++ rest = bytes ++ more)
    (hpart : 3 ≤ part.length) :
    invalid_declared_header part b = false ∧ declared_total_length part = bytes.length := by
  obtain ⟨h1, h2⟩ := h.declared
  have hlen := h.length_ge
  refine ⟨?_, ?_⟩
  · rw [← invalid_declared_header_append rest hpart, heq,
      invalid_declared_header_append more hlen, h1]
  · rw [← total_length_append rest hpart, heq, total_length_append more hlen, h2]

theorem Accepted.part_first {part more rest : List UInt8} (heq : part ++ rest = bytes ++ more)
    (hpart : part ≠ []) : byte part 0 ≠ 0xff := by
  have hlen := h.length_ge
  rw [← byte_append_left rest (length_pos_iff.mpr hpart), heq,
    byte_append_left more (by omega)]
  exact h.2

end accepted

/-! ## The pending section -/

/-- The assembler with pending bytes, `n` the length of their section. The length is known since
the pending bytes were `k` long. -/
def expecting (a : SectionAssembler) (bytes : List UInt8) (k n : Nat) : SectionAssembler :=
  { a with buf := bytes, expected_len := if k < 3 then none else some n }

/-- The header is read once its three bytes are there. -/
theorem declare_expecting (a : SectionAssembler) (b : Bool) (bytes : List UInt8) (k n : Nat)
    (hk : k ≤ bytes.length) (hmax : n ≤ MAX_SECTION_PAYLOAD_BYTES)
    (hdecl : 3 ≤ bytes.length →
      invalid_declared_header bytes b = false ∧ declared_total_length bytes = n) :
    declare_pending (a.expecting bytes k n) b =
      .yield (a.expecting bytes bytes.length n) := by
  unfold declare_pending
  by_cases hk3 : k < 3
  · by_cases hlen : bytes.length < 3
    · have h3 : ¬ 3 ≤ bytes.length := by omega
      simp [expecting, hk3, h3]
    · obtain ⟨h1, h2⟩ := hdecl (by omega)
      simp [expecting, hlen, h1, h2, set_expected_len_or_drop, Nat.not_lt.mpr hmax]
  · have hlen : ¬ bytes.length < 3 := by omega
    simp [expecting, hk3, hlen]

theorem try_take_part (a : SectionAssembler) (out : List (List UInt8)) {k : Nat}
    (h : Accepted b (part ++ rest)) (hk : k ≤ part.length) (hrest : rest ≠ []) :
    try_take_pending (a.expecting part k (part ++ rest).length) out b =
      ⟨a.expecting part part.length (part ++ rest).length, out⟩ := by
  have hpos := length_pos_iff.mpr hrest
  have hdecl := declare_expecting a b part k (part ++ rest).length hk h.length_le
    (fun h3 => h.part_declared (append_nil _).symm h3)
  refine loop_done (try_take_turn_lowers b) ?_
  unfold try_take_turn
  rw [hdecl]
  by_cases h3 : part.length < 3
  · simp [expecting, h3]
  · have hlt : part.length < (part ++ rest).length := by rw [length_append]; omega
    simp only [expecting, h3, if_false, hlt, if_true]

/-- The last bytes of the section, and stuffing behind them: the section is given out. -/
theorem try_take_whole (a : SectionAssembler) (out : List (List UInt8)) {bytes : List UInt8}
    {k : Nat} (stuffing : Nat) (h : Accepted b bytes) (hk : k ≤ bytes.length) :
    try_take_pending
        (a.expecting (bytes ++ List.replicate stuffing 0xff) k bytes.length) out b =
      ⟨a.reset, out ++ [bytes]⟩ := by
  have hlen := h.length_ge
  have hdecl := declare_expecting a b (bytes ++ replicate stuffing 0xff) k bytes.length
    (by rw [length_append]; omega) h.length_le
    (fun h3 => h.part_declared (append_nil _) h3)
  have hparse := h.parse_append []
  rw [append_nil] at hparse
  have h3 : ¬ (bytes ++ replicate stuffing 0xff).length < 3 := by
    rw [length_append]; omega
  refine loop_done (try_take_turn_lowers b) ?_
  unfold try_take_turn
  rw [hdecl]
  simp only [expecting, h3, if_false, take_section, take_left, hparse]
  cases stuffing with
  | zero => simp [next_pending, reset]
  | succ m => simp [next_pending, reset, byte]

/-! ## The sections of one payload -/

/-- Whole sections are given out one after the other. -/
theorem section_loop_whole (b : Bool) (a : SectionAssembler) (whole : List (List UInt8))
    (out : List (List UInt8)) (more : List UInt8) (h : ∀ s ∈ whole, Accepted b s) :
    loop (section_turn b) (fun v => v.remaining.length) ⟨⟨a, out⟩, whole.flatten ++ more⟩ =
      loop (section_turn b) (fun v => v.remaining.length) ⟨⟨a, out ++ whole⟩, more⟩ := by
  induction whole generalizing out with
  | nil => simp
  | cons s rest ih =>
    have hs := h s (mem_cons_self ..)
    have hlen := hs.length_ge
    have h3 : 3 ≤ (s ++ (rest.flatten ++ more)).length := by rw [length_append]; omega
    have hne : (s ++ (rest.flatten ++ more)).isEmpty = false := by
      rw [isEmpty_eq_false_iff, ← length_pos_iff]; omega
    obtain ⟨h1, h2⟩ := hs.part_declared (append_nil (s ++ (rest.flatten ++ more))) h3
    have hfirst := hs.part_first (append_nil (s ++ (rest.flatten ++ more)))
      (by rw [← length_pos_iff]; omega)
    have hturn : section_turn b ⟨⟨a, out⟩, s ++ (rest.flatten ++ more)⟩ =
        .yield ⟨⟨a, out ++ [s]⟩, rest.flatten ++ more⟩ := by
      unfold section_turn
      simp only [hne, hfirst, Nat.not_lt.mpr h3, h1, h2, hs.parse_append, take_left,
        drop_left, if_false, if_true, Bool.false_eq_true]
      rw [if_pos (by rw [length_append]; omega)]
    rw [flatten_cons, append_assoc, loop_yield (section_turn_lowers b) hturn,
      ih (out ++ [s]) fun t ht => h t (mem_cons_of_mem s ht), append_assoc,
      singleton_append]

/-- At stuffing, and at the end of the payload, the loop stops. -/
theorem section_loop_stuffing (b : Bool) (v : TakeVars) (stuffing : Nat) :
    (loop (section_turn b) (fun v => v.remaining.length)
      ⟨v, List.replicate stuffing 0xff⟩).toTakeVars = v := by
  have hturn : section_turn b ⟨v, replicate stuffing 0xff⟩ =
      .done ⟨v, replicate stuffing 0xff⟩ := by
    cases stuffing with
    | zero => simp [section_turn]
    | succ m => simp [section_turn, byte]
  rw [loop_done (section_turn_lowers b) hturn]

/-- A part of a section at the end of the payload becomes pending. -/
theorem section_loop_part (a : SectionAssembler) (out : List (List UInt8))
    (h : Accepted b (part ++ rest)) (hpart : part ≠ []) (hrest : rest ≠ []) (hbuf : a.buf = []) :
    (loop (section_turn b) (fun v => v.remaining.length) ⟨⟨a, out⟩, part⟩).toTakeVars =
      ⟨a.expecting part part.length (part ++ rest).length, out⟩ := by
  have hpos := length_pos_iff.mpr hrest
  have hne : part.isEmpty = false := isEmpty_eq_false_iff.mpr hpart
  have hfirst := h.part_first (append_nil _).symm hpart
  have hturn : section_turn b ⟨⟨a, out⟩, part⟩ =
      .done ⟨⟨a.expecting part part.length (part ++ rest).length, out⟩, part⟩ := by
    unfold section_turn
    by_cases h3 : part.length < 3
    · simp [hne, hfirst, h3, expecting, hbuf]
    obtain ⟨h1, h2⟩ := h.part_declared (append_nil _).symm (by omega)
    have hlt : ¬ part.length ≥ (part ++ rest).length := by rw [length_append]; omega
    have hmax : ¬ (part ++ rest).length > MAX_SECTION_PAYLOAD_BYTES :=
      Nat.not_lt.mpr h.length_le
    simp only [hne, hfirst, h3, h1, h2, hlt, hbuf, set_expected_len_or_drop, hmax, expecting,
      if_false, Bool.false_eq_true, nil_append]
  rw [loop_done (section_turn_lowers b) hturn]

/-! ## Legal packetizations -/

/-- One payload of the PID, with its unit start. -/
structure Payload where
  payload_unit_start : Bool
  bytes : List UInt8

/-- The payload of a boundary: the pointer field, the bytes before the boundary, and the bytes
behind it. -/
def Payload.boundary (tail body : List UInt8) : Payload :=
  ⟨true, UInt8.ofNat tail.length :: (tail ++ body)⟩

/-- A legal division into payloads of the tail of a section that has begun (or of nothing) and
the sections behind it. A payload has the unit start exactly when a section begins in it. The
pointer field then counts the bytes of the tail. Stuffing stands only behind the last byte of a
section, up to the end of the payload. -/
inductive Packets : List UInt8 → List (List UInt8) → List Payload → Prop
  | nil : Packets [] [] []
  | continue_part (part : List UInt8) {rest : List UInt8} {sections : List (List UInt8)}
      {payloads : List Payload} (hrest : rest ≠ []) :
      Packets rest sections payloads → Packets (part ++ rest) sections (⟨false, part⟩ :: payloads)
  | continue_end (tail : List UInt8) (stuffing : Nat) {sections : List (List UInt8)}
      {payloads : List Payload} :
      Packets [] sections payloads →
        Packets tail sections (⟨false, tail ++ List.replicate stuffing 0xff⟩ :: payloads)
  | start_end (tail : List UInt8) (whole : List (List UInt8)) (stuffing : Nat)
      {sections : List (List UInt8)} {payloads : List Payload} (htail : tail.length < 256)
      (hwhole : whole ≠ []) :
      Packets [] sections payloads →
        Packets tail (whole ++ sections)
          (.boundary tail (whole.flatten ++ List.replicate stuffing 0xff) :: payloads)
  | start_part (tail : List UInt8) (whole : List (List UInt8)) (part : List UInt8)
      {rest : List UInt8} {sections : List (List UInt8)} {payloads : List Payload}
      (htail : tail.length < 256) (hpart : part ≠ []) (hrest : rest ≠ []) :
      Packets rest sections payloads →
        Packets tail (whole ++ (part ++ rest) :: sections)
          (.boundary tail (whole.flatten ++ part) :: payloads)

/-! ## One payload -/

/-- The assembler holds `part`, and `tail` is what its section still needs. -/
def Holds (a : SectionAssembler) (part tail : List UInt8) : Prop :=
  (tail = [] ∧ a.buf = [] ∧ a.expected_len = none) ∨
    (tail ≠ [] ∧ part ≠ [] ∧ a = a.expecting part part.length (part ++ tail).length)

/-- The section that has begun, if there is one. -/
def begun (part tail : List UInt8) : List (List UInt8) := if tail = [] then [] else [part ++ tail]

theorem begun_idle (part : List UInt8) : begun part [] = [] := if_pos rfl

theorem begun_tail (h : tail ≠ []) : begun part tail = [part ++ tail] :=
  if_neg h

theorem reset_idle (h1 : a.buf = []) (h2 : a.expected_len = none) : a.reset = a := by
  cases a
  simp only at h1 h2
  simp [reset, h1, h2]

theorem not_pending (h1 : a.buf = []) (h2 : a.expected_len = none) : a.pending = false := by
  simp [pending, h1, h2]

theorem expecting_pending (a : SectionAssembler) {bytes : List UInt8} (k n : Nat)
    (h : bytes ≠ []) : (a.expecting bytes k n).pending = true := by
  simp [pending, expecting, h]

/-- The bytes before a boundary end the section that has begun. -/
theorem finish_at_boundary.spec (h : a.Holds part tail)
    (hacc : ∀ s ∈ begun part tail, Accepted b s) :
    a.finish_at_boundary tail b = ⟨a.reset, begun part tail⟩ := by
  unfold finish_at_boundary
  rcases h with ⟨rfl, h1, h2⟩ | ⟨htail, hpart, ha⟩
  · rw [not_pending h1 h2, reset_idle h1 h2]
    rfl
  · rw [begun_tail htail] at hacc ⊢
    have hwhole := try_take_whole a [] (k := part.length) 0 (hacc _ (mem_singleton.mpr rfl))
      (by rw [length_append]; omega)
    rw [replicate_zero, append_nil] at hwhole
    have hpend : a.pending = true := by
      rw [ha]
      exact expecting_pending a _ _ hpart
    have hext : { a with buf := a.buf ++ tail } =
        a.expecting (part ++ tail) part.length (part ++ tail).length := by
      rw [ha]
      rfl
    simp only [hpend, length_pos_iff.mpr htail, hext, hwhole]
    rfl

theorem push_continued (b : Bool) (bytes : List UInt8) (hpart : part ≠ [])
    (ha : a = a.expecting part part.length (part ++ tail).length) :
    a.push_payload_with_reserved_bit_policy false bytes b =
      if bytes = [] then ⟨a, []⟩
      else try_take_pending (a.expecting (part ++ bytes) part.length (part ++ tail).length)
        [] b := by
  have hpend : a.pending = true := by
    rw [ha]
    exact expecting_pending a _ _ hpart
  have hext : { a with buf := a.buf ++ bytes } =
      a.expecting (part ++ bytes) part.length (part ++ tail).length := by
    rw [ha]
    rfl
  unfold push_payload_with_reserved_bit_policy push_remaining
  by_cases hb : bytes = []
  · simp [hb]
  · have hne : bytes.isEmpty = false := isEmpty_eq_false_iff.mpr hb
    simp only [hne, hpend, hb, hext, if_false, if_true, Bool.false_eq_true, Bool.not_true]

/-- A payload with a boundary, up to the loop over the bytes behind it. -/
theorem push_boundary (body : List UInt8) (h : a.Holds part tail)
    (hacc : ∀ s ∈ begun part tail, Accepted b s) (htail : tail.length < 256) (hbody : body ≠ []) :
    a.push_payload_with_reserved_bit_policy true (Payload.boundary tail body).bytes b =
      (loop (section_turn b) (fun v => v.remaining.length)
        ⟨⟨a.reset, begun part tail⟩, body⟩).toTakeVars := by
  have hpointer : (byte (Payload.boundary tail body).bytes 0).toNat = tail.length := by
    simp [Payload.boundary, byte, Nat.mod_eq_of_lt htail]
  have hlen : ¬ 1 + tail.length > (Payload.boundary tail body).bytes.length := by
    simp [Payload.boundary]; omega
  have hbefore : ((Payload.boundary tail body).bytes.drop 1).take tail.length = tail := by
    simp [Payload.boundary]
  have hbehind : (Payload.boundary tail body).bytes.drop (1 + tail.length) = body := by
    rw [Nat.add_comm]
    simp [Payload.boundary]
  have hne : body.isEmpty = false := isEmpty_eq_false_iff.mpr hbody
  unfold push_payload_with_reserved_bit_policy
  simp only [hpointer, hlen, hbefore, hbehind, finish_at_boundary.spec h hacc]
  unfold push_remaining
  rw [hne]
  rfl

/-! ## Whole runs -/

/-- One payload of the PID, as the demux pushes it. -/
def feed (b : Bool) (a : SectionAssembler) (p : Payload) : SectionAssembler × SectionPushOutcome :=
  a.push_payload_with_outcome_policy p.payload_unit_start p.bytes b

/-- An outcome that counts nothing. -/
def clean (sections : List (List UInt8)) : SectionPushOutcome :=
  { sections
    oversized_section_drop_delta := 0
    stale_partial_discard_delta := 0
    oversized_section_counter_saturated := false
    stale_partial_counter_saturated := false }

theorem feed_clean {c : SectionAssembler} {p : Payload} {out : List (List UInt8)}
    (h : a.push_payload_with_reserved_bit_policy p.payload_unit_start p.bytes b = ⟨c, out⟩)
    (hc : c.reset = a.reset) : feed b a p = (c, clean out) := by
  simp only [reset, SectionAssembler.mk.injEq] at hc
  obtain ⟨h1, h2, h3, h4⟩ := hc
  simp [feed, push_payload_with_outcome_policy, h, clean, h3, h4]

/-- The payload gives the sections that end in it, and the assembler holds the part of the
section that begins and does not end in it. -/
structure FedTo (b : Bool) (a : SectionAssembler) (p : Payload) (c : SectionAssembler)
    (out : List (List UInt8)) (part rest : List UInt8) : Prop where
  feeds : feed b a p = (c, clean out)
  counts : c.reset = a.reset
  holds : c.Holds part rest

theorem feed_continue_part (h : a.Holds old (part ++ rest))
    (hacc : Accepted b (old ++ (part ++ rest))) (hrest : rest ≠ []) :
    ∃ c, FedTo b a ⟨false, part⟩ c [] (old ++ part) rest := by
  have htail : part ++ rest ≠ [] := by simp [hrest]
  rcases h with ⟨hnil, _, _⟩ | ⟨_, hold, ha⟩
  · exact absurd hnil htail
  have hpush := push_continued b part hold ha
  by_cases hpart : part = []
  · subst hpart
    refine ⟨a, feed_clean hpush rfl, rfl, .inr ⟨hrest, by simpa using hold, ?_⟩⟩
    simpa using ha
  · rw [← append_assoc] at hacc hpush
    rw [if_neg hpart, try_take_part a [] hacc (by rw [length_append]; omega) hrest] at hpush
    exact ⟨_, feed_clean hpush rfl, rfl,
      .inr ⟨hrest, by simp [hold], rfl⟩⟩

theorem feed_continue_end (stuffing : Nat) (h : a.Holds old tail)
    (hacc : ∀ s ∈ begun old tail, Accepted b s) :
    FedTo b a ⟨false, tail ++ List.replicate stuffing 0xff⟩ a.reset (begun old tail) [] [] := by
  rcases h with ⟨rfl, h1, h2⟩ | ⟨htail, hold, ha⟩
  · have hpush : a.push_payload_with_reserved_bit_policy false
        ([] ++ replicate stuffing 0xff) b = ⟨a.reset, begun old []⟩ := by
      unfold push_payload_with_reserved_bit_policy
      rw [not_pending h1 h2, reset_idle h1 h2]
      split <;> rfl
    exact ⟨feed_clean hpush rfl, rfl, .inl ⟨rfl, rfl, rfl⟩⟩
  · rw [begun_tail htail] at hacc ⊢
    have hpush := push_continued b (tail ++ replicate stuffing 0xff) hold ha
    rw [if_neg (by simp [htail]), ← append_assoc,
      try_take_whole a [] stuffing (hacc _ (mem_singleton.mpr rfl))
        (by rw [length_append]; omega)] at hpush
    exact ⟨feed_clean hpush rfl, rfl, .inl ⟨rfl, rfl, rfl⟩⟩

theorem feed_start_end (whole : List (List UInt8)) (stuffing : Nat) (h : a.Holds old tail)
    (hacc : ∀ s ∈ begun old tail, Accepted b s) (htail : tail.length < 256) (hwhole : whole ≠ [])
    (hw : ∀ s ∈ whole, Accepted b s) :
    FedTo b a (.boundary tail (whole.flatten ++ List.replicate stuffing 0xff)) a.reset
      (begun old tail ++ whole) [] [] := by
  have hbody : whole.flatten ++ replicate stuffing 0xff ≠ [] := by
    obtain ⟨s, rest, rfl⟩ := exists_cons_of_ne_nil hwhole
    have hlen := (hw s (mem_cons_self ..)).length_ge
    rw [← length_pos_iff, flatten_cons, append_assoc, length_append]
    omega
  have hpush := push_boundary _ h hacc htail hbody
  rw [section_loop_whole b a.reset whole _ _ hw, section_loop_stuffing] at hpush
  exact ⟨feed_clean hpush rfl, rfl, .inl ⟨rfl, rfl, rfl⟩⟩

theorem feed_start_part (whole : List (List UInt8)) (h : a.Holds old tail)
    (hacc : ∀ s ∈ begun old tail, Accepted b s) (htail : tail.length < 256) (hpart : part ≠ [])
    (hrest : rest ≠ []) (hw : ∀ s ∈ whole, Accepted b s) (hs : Accepted b (part ++ rest)) :
    ∃ c, FedTo b a (.boundary tail (whole.flatten ++ part)) c (begun old tail ++ whole)
      part rest := by
  have hpush := push_boundary (whole.flatten ++ part) h hacc htail (by simp [hpart])
  rw [section_loop_whole b a.reset whole _ _ hw, section_loop_part a.reset _ hs hpart hrest rfl]
    at hpush
  exact ⟨_, feed_clean hpush rfl, rfl, .inr ⟨hrest, hpart, rfl⟩⟩

/-- The run over the payloads gives the sections, counts nothing, and ends with no section
begun. -/
def Gives (b : Bool) (a : SectionAssembler) (payloads : List Payload)
    (sections : List (List UInt8)) : Prop :=
  (run (feed b) a payloads).1 = a.reset ∧
    ∃ outs : List (List (List UInt8)), (run (feed b) a payloads).2 = outs.map clean ∧
      outs.flatten = sections

theorem FedTo.gives {c : SectionAssembler} {p : Payload} {out : List (List UInt8)}
    (hfed : FedTo b a p c out part rest) {payloads : List Payload} {sections : List (List UInt8)}
    (h : Gives b c payloads sections) : Gives b a (p :: payloads) (out ++ sections) := by
  obtain ⟨hend, outs, houts, hflat⟩ := h
  unfold Gives
  rw [run_cons, hfed.feeds]
  refine ⟨hend.trans hfed.counts, out :: outs, ?_, ?_⟩
  · rw [map_cons, houts]
  · rw [flatten_cons, hflat]

/-- A run of an assembler that holds a part of a section, over a legal packetization of the
sections from there on. -/
theorem run_packets {sections : List (List UInt8)} {payloads : List Payload}
    (h : Packets tail sections payloads) (a : SectionAssembler) (old : List UInt8)
    (hold : a.Holds old tail) (hbegun : ∀ s ∈ begun old tail, Accepted b s)
    (hacc : ∀ s ∈ sections, Accepted b s) : Gives b a payloads (begun old tail ++ sections) := by
  induction h generalizing a old with
  | nil =>
    rcases hold with ⟨_, h1, h2⟩ | ⟨hne, _⟩
    · exact ⟨(reset_idle h1 h2).symm, [], rfl, rfl⟩
    · exact absurd rfl hne
  | continue_part part hrest _ ih =>
    have hne : part ++ _ ≠ [] := append_ne_nil_of_right_ne_nil part hrest
    rw [begun_tail hne] at hbegun ⊢
    have hs := hbegun _ (mem_singleton.mpr rfl)
    obtain ⟨c, hfed⟩ := feed_continue_part hold hs hrest
    rw [← append_assoc]
    have hc := ih c (old ++ part) hfed.holds (by
      rw [begun_tail hrest]
      simpa using hs) hacc
    have hrun := hfed.gives hc
    rwa [begun_tail hrest] at hrun
  | continue_end tail stuffing _ ih =>
    have hfed := feed_continue_end stuffing hold hbegun
    have hrun := hfed.gives (ih a.reset [] hfed.holds (by simp [begun_idle]) hacc)
    rwa [begun_idle] at hrun
  | start_end tail whole stuffing htail hwhole _ ih =>
    have hw : ∀ s ∈ whole, Accepted b s := fun s hs => hacc s (mem_append_left _ hs)
    have hfed := feed_start_end whole stuffing hold hbegun htail hwhole hw
    have hrun := hfed.gives (ih a.reset [] hfed.holds (by simp [begun_idle])
      fun s hs => hacc s (mem_append_right _ hs))
    rwa [append_assoc] at hrun
  | start_part tail whole part htail hpart hrest _ ih =>
    have hw : ∀ s ∈ whole, Accepted b s := fun s hs => hacc s (mem_append_left _ hs)
    have hs := hacc _ (mem_append_right whole (mem_cons_self ..))
    obtain ⟨c, hfed⟩ := feed_start_part whole hold hbegun htail hpart hrest hw hs
    have hrun := hfed.gives (ih c part hfed.holds (by
      rw [begun_tail hrest]
      simpa using hs) fun s hs => hacc s (mem_append_right _ (mem_cons_of_mem _ hs)))
    rwa [begun_tail hrest, append_assoc] at hrun

/-- Over every legal division of a list of sections into payloads, a fresh assembler gives exactly
these sections, in order, counts no drop and no discard, and is at the end as it was. -/
theorem assembly_undoes_packetization (sections : List (List UInt8)) (payloads : List Payload)
    (hacc : ∀ s ∈ sections, ∃ h, parse_section_header s 12 = some h ∧ h.total_length = s.length)
    (hfirst : ∀ s ∈ sections, byte s 0 ≠ 0xff) (h : Packets [] sections payloads) :
    let r := run (fun (a : SectionAssembler) (p : Payload) =>
      a.push_payload_with_outcome p.payload_unit_start p.bytes) {} payloads
    (r.2.map (·.sections)).flatten = sections ∧ (∀ o ∈ r.2, o.has_drop_or_discard = false) ∧
      r.1 = {} := by
  obtain ⟨hend, outs, houts, hflat⟩ := run_packets h {} [] (.inl ⟨rfl, rfl, rfl⟩)
    (by simp [begun_idle]) fun s hs => ⟨hacc s hs, hfirst s hs⟩
  change (((run (feed true) {} payloads).2.map (·.sections)).flatten = sections ∧
    (∀ o ∈ (run (feed true) {} payloads).2, o.has_drop_or_discard = false) ∧
    (run (feed true) {} payloads).1 = {})
  rw [houts, hend]
  refine ⟨?_, ?_, rfl⟩
  · have hmap : (outs.map clean).map (·.sections) = outs := by
      rw [map_map]
      exact map_id outs
    rw [hmap, hflat, begun_idle, nil_append]
  · intro o ho
    obtain ⟨out, _, rfl⟩ := mem_map.mp ho
    rfl

/-- A TDT section. -/
def timeSection : List UInt8 := [0x70, 0x70, 0x05, 0xe1, 0x02, 0x12, 0x34, 0x56]

/-- Two TDT sections. The first one breaks in its header, and the second one shares a payload
with its tail. -/
def timePayloads : List Payload :=
  [.boundary [] [0x70, 0x70],
    .boundary [0x05, 0xe1, 0x02, 0x12, 0x34, 0x56] (timeSection ++ [0xff, 0xff])]

/-- Both of them come back. -/
theorem two_time_sections_come_back :
    Packets [] [timeSection, timeSection] timePayloads ∧
      ((run (fun (a : SectionAssembler) (p : Payload) =>
        a.push_payload_with_outcome p.payload_unit_start p.bytes) {} timePayloads).2.map
          (·.sections)).flatten = [timeSection, timeSection] := by
  have hp : Packets [] [timeSection, timeSection] timePayloads :=
    .start_part [] [] [0x70, 0x70] (by decide) (by decide) (by decide)
      (.start_end [0x05, 0xe1, 0x02, 0x12, 0x34, 0x56] [timeSection] 2 (by decide) (by decide) .nil)
  refine ⟨hp, (assembly_undoes_packetization _ _ ?_ ?_ hp).1⟩
  · intro s hs
    obtain rfl : s = timeSection := by simpa using hs
    exact ⟨_, rfl, rfl⟩
  · intro s hs
    obtain rfl : s = timeSection := by simpa using hs
    decide

end SectionAssembler

end tuner_hal2_demux
