-- The start codes that the record index sees in a video stream that is cut into
-- payloads. A start code is seen when its first byte behind the prefix and the
-- others that tell its kind are in one payload; the prefix may be in the tail
-- that is carried over.
import TvStack.Cuts
import TvStack.SliceHeaders

open Cuts Words

namespace tuner_hal2_demux.record_index

open packet_pipeline

variable {bytes nal : List UInt8} {info : RecordStartCodeInfo} {sc_index_type : Int}

/-! ## More bytes of a NAL unit -/

theorem nal_to_rbsp_from_append (zero_run : Nat) (bytes more : List UInt8) :
    ∃ rest, nal_to_rbsp_from zero_run (bytes ++ more) =
      nal_to_rbsp_from zero_run bytes ++ rest := by
  induction bytes generalizing zero_run with
  | nil => exact ⟨_, rfl⟩
  | cons b bytes ih =>
    rw [List.cons_append]
    unfold nal_to_rbsp_from
    split
    · exact ih 0
    · obtain ⟨rest, hrest⟩ := ih (if b = 0x00 then zero_run + 1 else 0)
      exact ⟨rest, by rw [hrest, List.cons_append]⟩

namespace BitReader

open arib_si_engine_rs.sections (bits)

variable {r r' : BitReader} {more : List UInt8} {n : Nat}

/-- The reader with more bytes behind its own. -/
def extend (r : BitReader) (more : List UInt8) : BitReader := { r with bytes := r.bytes ++ more }

theorem read_ue_extend (h : r.read_ue = some (n, r')) :
    (r.extend more).read_ue = some (n, r'.extend more) := by
  obtain ⟨suffix, tail, hlength, hbits⟩ := exists_codeword h
  cases (read_ue_codeword hlength hbits).symm.trans h
  have hmore : (r.extend more).rest =
      codeword suffix ++ (tail ++ (bits more).drop (r.bit_offset - (bits r.bytes).length)) := by
    rw [← List.append_assoc, ← hbits, rest, rest, ← List.drop_append, bits, bits, bits,
      ← List.flatMap_append]
    rfl
  exact read_ue_codeword hlength hmore

end BitReader

theorem parse_generic_sc_index_stable : Stable parse_generic_sc_index := by
  intro nal info more h
  cases nal with
  | nil => cases h
  | cons code rest =>
    unfold parse_generic_sc_index at h ⊢
    dsimp only [List.cons_append] at h ⊢
    split at h
    · next hcode =>
      have hlength : 2 ≤ (rest ++ more).length := by
        rw [List.length_append]
        omega
      rw [if_pos ⟨hcode.1, hlength⟩, byte_append_left more (by omega : 0 < rest.length),
        byte_append_left more (by omega : 1 < rest.length)]
      exact h
    · split at h
      · next hcode =>
        have hno : code ≠ 0x00 := by
          rw [hcode]
          decide
        rw [if_neg (fun hzero => hno hzero.1), if_pos hcode]
        exact h
      · cases h

theorem parse_avc_sc_index_stable : Stable parse_avc_sc_index := by
  intro nal info more h
  cases nal with
  | nil => cases h
  | cons header rest =>
    unfold parse_avc_sc_index at h ⊢
    dsimp only [List.cons_append] at h ⊢
    split at h
    · next htype =>
      rw [if_pos htype]
      obtain ⟨⟨first_mb, reader⟩, hfirst, hrest⟩ := Option.bind_eq_some_iff.mp h
      obtain ⟨⟨slice_type, reader'⟩, hslice, hmask⟩ := Option.bind_eq_some_iff.mp hrest
      obtain ⟨bytes, hbytes⟩ := nal_to_rbsp_from_append 0 rest more
      have hreader : ({ bytes := nal_to_rbsp (rest ++ more) } : BitReader) =
          BitReader.extend { bytes := nal_to_rbsp rest } bytes := by
        rw [nal_to_rbsp, hbytes]
        rfl
      rw [hreader, BitReader.read_ue_extend hfirst]
      dsimp only [Option.bind_eq_bind, Option.bind_some]
      rw [BitReader.read_ue_extend hslice]
      exact hmask
    · cases h

theorem parse_hevc_sc_index_stable : Stable parse_hevc_sc_index := by
  intro nal info more h
  unfold parse_hevc_sc_index at h ⊢
  split at h
  · cases h
  rw [if_neg (by rw [List.length_append]; omega), byte_append_left more (by omega)]
  exact h

theorem parse_vvc_sc_index_stable : Stable parse_vvc_sc_index := by
  intro nal info more h
  unfold parse_vvc_sc_index at h ⊢
  split at h
  · cases h
  rw [if_neg (by rw [List.length_append]; omega), byte_append_left more (by omega)]
  exact h

/-- The kind of a start code that is told once does not change with the bytes behind. -/
theorem parse_sc_index_stable (sc_index_type : Int) : Stable (parse_sc_index sc_index_type) := by
  intro nal info more h
  unfold parse_sc_index at h ⊢
  split_ifs at h ⊢
  · exact parse_generic_sc_index_stable more h
  · exact parse_avc_sc_index_stable more h
  · exact parse_hevc_sc_index_stable more h
  · exact parse_vvc_sc_index_stable more h

/-- The bytes behind a prefix tell a kind of start code with this bit. -/
def Tells (sc_index_type : Int) (nal : List UInt8) (bit : Nat) : Prop :=
  ∃ info, parse_sc_index sc_index_type nal = some info ∧ info.mask.getLsbD bit = true

theorem Tells.append {bit : Nat} (h : Tells sc_index_type nal bit) (more : List UInt8) :
    Tells sc_index_type (nal ++ more) bit := by
  obtain ⟨info, hparse, hbit⟩ := h
  exact ⟨info, parse_sc_index_stable sc_index_type more hparse, hbit⟩

theorem not_tells_nil {bit : Nat} : ¬ Tells sc_index_type [] bit := by
  rintro ⟨info, hparse, -⟩
  unfold parse_sc_index at hparse
  split_ifs at hparse <;> cases hparse

/-! ## The start codes of some bytes -/

/-- The prefix of a start code, with a byte behind it. -/
structure CodeAt (bytes : List UInt8) (q : Nat) : Prop where
  first : byte bytes q = 0x00
  second : byte bytes (q + 1) = 0x00
  third : byte bytes (q + 2) = 0x01
  inside : q + 3 < bytes.length

instance (bytes : List UInt8) (q : Nat) : Decidable (CodeAt bytes q) :=
  decidable_of_iff (byte bytes q = 0x00 ∧ byte bytes (q + 1) = 0x00 ∧ byte bytes (q + 2) = 0x01 ∧
      q + 3 < bytes.length)
    ⟨fun ⟨a, b, c, d⟩ => ⟨a, b, c, d⟩, fun ⟨a, b, c, d⟩ => ⟨a, b, c, d⟩⟩

instance (bytes : List UInt8) (p : Nat → Prop) [DecidablePred p] :
    Decidable (∀ q, CodeAt bytes q → p q) :=
  decidable_of_iff (∀ q < bytes.length, CodeAt bytes q → p q)
    ⟨fun h q hq => h q (Nat.lt_of_add_right_lt hq.inside) hq, fun h q _ => h q⟩

section
variable {bytes : List UInt8} {q k s : Nat}

theorem byte_drop : byte (bytes.drop k) q = byte bytes (k + q) := by
  simp [byte, List.getD_eq_getElem?_getD]

theorem codeAt_drop : CodeAt (bytes.drop k) q ↔ CodeAt bytes (k + q) := by
  constructor
  · rintro ⟨first, second, third, inside⟩
    rw [byte_drop] at first second third
    rw [List.length_drop] at inside
    exact ⟨first, second, third, by omega⟩
  · rintro ⟨first, second, third, inside⟩
    refine ⟨?_, ?_, ?_, by rw [List.length_drop]; omega⟩ <;> rw [byte_drop] <;> assumption

theorem codeAt_append (more : List UInt8) (h : q + 3 < bytes.length) :
    CodeAt (bytes ++ more) q ↔ CodeAt bytes q := by
  have hlength : bytes.length ≤ (bytes ++ more).length := by simp
  constructor
  · rintro ⟨first, second, third, -⟩
    rw [byte_append_left more (by omega)] at first second third
    exact ⟨first, second, third, h⟩
  · rintro ⟨first, second, third, -⟩
    refine ⟨?_, ?_, ?_, by omega⟩ <;> rw [byte_append_left more (by omega)] <;> assumption

/-- No start code is in the two bytes behind the first of another. -/
theorem CodeAt.not_inside (h : CodeAt bytes q) (h' : CodeAt bytes k) (hle : q ≤ k) :
    k = q ∨ q + 3 ≤ k := by
  by_contra hno
  have hk : k = q + 1 ∨ k = q + 2 := by omega
  rcases hk with rfl | rfl
  · cases h.third.symm.trans h'.second
  · cases h.third.symm.trans h'.first

/-- A search from `start` on meets a start code, unless this one begins right behind another that it
meets: behind that one it goes on with the second byte. -/
def Met (bytes : List UInt8) (start : Nat) : Nat → Prop
  | q + 3 => start ≤ q + 3 ∧ CodeAt bytes (q + 3) ∧ ¬ Met bytes start q
  | q => start ≤ q ∧ CodeAt bytes q

theorem met_iff : Met bytes s q ↔
    s ≤ q ∧ CodeAt bytes q ∧ ∀ r, r + 3 = q → ¬ Met bytes s r := by
  match q with
  | 0 | 1 | 2 => simp [Met]
  | q + 3 => simp [Met]

theorem Met.code (h : Met bytes s q) : s ≤ q ∧ CodeAt bytes q :=
  ⟨(met_iff.mp h).1, (met_iff.mp h).2.1⟩

/-- Where no start code follows at once on another, all are met. -/
theorem met_of_apart (h : ∀ q, s ≤ q → CodeAt bytes q → ¬ CodeAt bytes (q + 3)) :
    Met bytes s q ↔ s ≤ q ∧ CodeAt bytes q := by
  refine ⟨Met.code, fun ⟨hle, hcode⟩ => met_iff.mpr ⟨hle, hcode, ?_⟩⟩
  rintro r rfl hmet
  exact h r hmet.code.1 hmet.code.2 hcode

/-- Behind the first start code the search goes on from the second byte. -/
theorem met_next (hk : CodeAt bytes k) (hle : s ≤ k)
    (hleast : ∀ q, s ≤ q → CodeAt bytes q → k ≤ q) :
    Met bytes s q ↔ q = k ∨ Met bytes (k + 4) q := by
  induction q using Nat.strongRecOn with
  | ind q ih =>
    rw [met_iff]
    constructor
    · rintro ⟨hs, hcode, hfree⟩
      rcases hk.not_inside hcode (hleast q hs hcode) with heq | hge
      · exact .inl heq
      have hbehind : q ≠ k + 3 := by
        rintro rfl
        exact hfree k rfl ((ih k (by omega)).mpr (.inl rfl))
      refine .inr (met_iff.mpr ⟨by omega, hcode, fun r hr hmet => ?_⟩)
      exact hfree r hr ((ih r (by omega)).mpr (.inr hmet))
    · rintro (rfl | hmet)
      · refine ⟨hle, hk, fun r hr hmet => ?_⟩
        have := hleast r hmet.code.1 hmet.code.2
        omega
      · obtain ⟨hq, hcode, hfree⟩ := met_iff.mp hmet
        refine ⟨by omega, hcode, fun r hr hbefore => ?_⟩
        rcases (ih r (by omega)).mp hbefore with rfl | hbefore
        · omega
        · exact hfree r hr hbefore

theorem met_drop : Met (bytes.drop k) s q ↔ Met bytes (k + s) (k + q) := by
  induction q using Nat.strongRecOn with
  | ind q ih =>
    rw [met_iff, met_iff, codeAt_drop]
    refine and_congr (by omega) (and_congr_right fun _ => ⟨fun h r hr hmet => ?_, fun h r hr hmet =>
      h (k + r) (by omega) ((ih r (by omega)).mp hmet)⟩)
    obtain ⟨j, rfl⟩ := Nat.exists_eq_add_of_le (Nat.le_of_add_right_le hmet.code.1)
    exact h j (by omega) ((ih j (by omega)).mpr hmet)

theorem met_append (more : List UInt8) (h : q + 3 < bytes.length) :
    Met (bytes ++ more) s q ↔ Met bytes s q := by
  induction q using Nat.strongRecOn with
  | ind q ih =>
    rw [met_iff, met_iff, codeAt_append more h]
    refine and_congr_right fun _ => and_congr_right fun _ => forall₂_congr fun r hr => ?_
    exact not_congr (ih r (by omega) (by omega))

end

/-- What a search finds: the first start code, or that there is none. -/
def Finds (bytes : List UInt8) (i : Nat) : Option (Nat × Nat) → Prop
  | none => ∀ q, ¬ CodeAt bytes q
  | some (relative, prefix_len) => ∃ q, i + q + 3 = relative + prefix_len ∧ CodeAt bytes q ∧
      ∀ q', CodeAt bytes q' → q ≤ q'

theorem find_sc_prefix_from.spec (i : Nat) (bytes : List UInt8) :
    Finds bytes i (find_sc_prefix_from i bytes) := by
  fun_induction find_sc_prefix_from i bytes with
  | case1 i a b c d rest hprefix =>
    obtain ⟨rfl, rfl, rfl⟩ := hprefix
    exact ⟨0, rfl, ⟨rfl, rfl, rfl, by simp⟩, fun _ _ => Nat.zero_le _⟩
  | case2 i a b c d rest hno hprefix =>
    obtain ⟨rfl, rfl, hrest, rfl, rfl⟩ := hprefix
    have hlength := List.length_pos_iff.mpr hrest
    refine ⟨1, rfl, ⟨rfl, rfl, rfl, by simpa using hlength⟩, fun q' h => ?_⟩
    cases q' with
    | zero => cases h.third
    | succ q' => omega
  | case3 i a b c d rest hno hno' ih =>
    have hfirst : ¬ CodeAt (a :: b :: c :: d :: rest) 0 := fun h => hno ⟨h.first, h.second, h.third⟩
    have hnext (q : Nat) : CodeAt (a :: b :: c :: d :: rest) (q + 1) ↔
      CodeAt (b :: c :: d :: rest) q := (Nat.add_comm 1 q ▸ codeAt_drop (k := 1)).symm
    generalize find_sc_prefix_from (i + 1) (b :: c :: d :: rest) = found at ih
    match found, ih with
    | none, ih =>
      intro q h
      cases q with
      | zero => exact hfirst h
      | succ q => exact ih q ((hnext q).mp h)
    | some (relative, prefix_len), ⟨q, hplace, hcode, hleast⟩ =>
      refine ⟨q + 1, by omega, (hnext q).mpr hcode, fun q' h => ?_⟩
      cases q' with
      | zero => exact absurd h hfirst
      | succ q' => exact Nat.succ_le_succ (hleast q' ((hnext q').mp h))
  | case4 bytes i hshort =>
    intro q h
    have hlength := h.inside
    match bytes, hshort with
    | [], _ | [_], _ | [_, _], _ | [_, _, _], _ =>
      simp only [List.length_cons, List.length_nil] at hlength
      omega
    | a :: b :: c :: d :: rest, hshort => exact hshort a b c d rest rfl

/-! ## The scan of a payload -/

/-- A search from `start` on meets a start code of a kind with this bit. -/
def Indexed (sc_index_type : Int) (bytes : List UInt8) (start bit : Nat) : Prop :=
  ∃ q, Met bytes start q ∧ Tells sc_index_type (bytes.drop (q + 3)) bit

theorem StartCodes.note_bits (seen : StartCodes) (configured_mask : I32) (bit : Nat) :
    (seen.note configured_mask (parse_sc_index sc_index_type nal)).observed_mask.getLsbD bit =
      true ↔ seen.observed_mask.getLsbD bit = true ∨ Tells sc_index_type nal bit := by
  unfold Tells
  cases parse_sc_index sc_index_type nal <;> simp [StartCodes.note]

/-- The scan sees the start codes that a search from its offset on meets. -/
theorem scan_start_codes_bits (sc_index_type : Int) (configured_mask : I32) (bit fuel offset : Nat)
    (seen : StartCodes) (hfuel : bytes.length < fuel + offset) :
    (scan_start_codes sc_index_type configured_mask bytes fuel offset
        seen).observed_mask.getLsbD bit = true ↔
      seen.observed_mask.getLsbD bit = true ∨ Indexed sc_index_type bytes offset bit := by
  have hpast {offset : Nat} (h : bytes.length < offset + 1) :
      ¬ Indexed sc_index_type bytes offset bit := by
    rintro ⟨q, hmet, -⟩
    have hq := hmet.code.1
    have hlength := hmet.code.2.inside
    omega
  induction fuel generalizing offset seen with
  | zero => exact (or_iff_left (hpast (by omega))).symm
  | succ fuel ih =>
    have hfinds := find_sc_prefix_from.spec 0 (bytes.drop offset)
    unfold scan_start_codes find_sc_prefix
    generalize find_sc_prefix_from 0 (bytes.drop offset) = found at hfinds
    match found, hfinds with
    | none, hnone =>
      refine (or_iff_left ?_).symm
      rintro ⟨q, hmet, -⟩
      obtain ⟨k, rfl⟩ := Nat.exists_eq_add_of_le hmet.code.1
      exact hnone k (codeAt_drop.mpr hmet.code.2)
    | some (relative, prefix_len), ⟨k, hplace, hcode, hleast⟩ =>
      have hstart : offset + relative + prefix_len = offset + k + 3 := by omega
      have hnext (q : Nat) : Met bytes offset q ↔
        q = offset + k ∨ Met bytes (offset + k + 4) q := by
        refine met_next (codeAt_drop.mp hcode) (Nat.le_add_right _ _) fun q hle hq => ?_
        obtain ⟨j, rfl⟩ := Nat.exists_eq_add_of_le hle
        exact Nat.add_le_add_left (hleast j (codeAt_drop.mpr hq)) offset
      have hsplit : Indexed sc_index_type bytes offset bit ↔
          Tells sc_index_type (bytes.drop (offset + k + 3)) bit ∨
            Indexed sc_index_type bytes (offset + k + 3 + 1) bit := by
        unfold Indexed
        simp only [hnext, or_and_right, exists_or, exists_eq_left]
      dsimp only
      rw [hstart, hsplit, ← or_assoc, ← StartCodes.note_bits seen configured_mask]
      split
      · next hend => exact (or_iff_left (hpast (by omega))).symm
      · exact ih _ _ (by omega)

/-- Some bytes begin like a PES packet. -/
def BeginsPes (seen : List UInt8) : Prop :=
  CodeAt seen 0 ∧ looks_like_record_index_pes_stream (byte seen 3) = true

/-- Where the search begins in what is seen with a payload: with its first byte; or, in what begins
like a PES packet, behind the header, if that is there and a packet of known length is too. -/
inductive SearchedFrom (seen : List UInt8) : Nat → Prop
  | stream (h : ¬ BeginsPes seen) : SearchedFrom seen 0
  | packet {summary : PesHeaderSummary} (h : BeginsPes seen)
      (header : parse_pes_header_status seen = .Complete summary)
      (whole : ∀ len ∈ summary.expected_len, len ≤ seen.length) :
      SearchedFrom seen summary.payload_offset

theorem codeAt_zero : CodeAt bytes 0 ↔
    [0x00, 0x00, 0x01].isPrefixOf bytes = true ∧ bytes[3]? = some (byte bytes 3) := by
  match bytes with
  | [] | [_] | [_, _] | [_, _, _] => exact iff_of_false (fun h => by simpa using h.inside) (by simp)
  | a :: b :: c :: d :: rest =>
    have hlength : 0 + 3 < (a :: b :: c :: d :: rest).length := by simp
    simp only [List.isPrefixOf, Bool.and_true, Bool.and_eq_true, beq_iff_eq]
    exact ⟨fun h => ⟨⟨h.first.symm, h.second.symm, h.third.symm⟩, rfl⟩,
      fun ⟨⟨first, second, third⟩, _⟩ => ⟨first.symm, second.symm, third.symm, hlength⟩⟩

/-- The bytes in which a payload is searched, if it is. -/
def searched (seen : List UInt8) : Option (List UInt8) :=
  match pes_payload_kind seen with
  | .ElementaryStream bytes => some bytes
  | .NotPes => some seen
  | .MalformedPes => none

theorem searched_eq_some {seen : List UInt8} :
    searched seen = some bytes ↔ ∃ offset, SearchedFrom seen offset ∧ bytes = seen.drop offset := by
  unfold searched
  by_cases hpes : BeginsPes seen
  · obtain ⟨hzero, hid⟩ := codeAt_zero.mp hpes.1
    have hfrom (o : Nat) : SearchedFrom seen o ↔ ∃ summary, parse_pes_header_status seen =
        .Complete summary ∧ (∀ len ∈ summary.expected_len, len ≤ seen.length) ∧
          o = summary.payload_offset :=
      ⟨fun h => by cases h with
        | stream h => exact absurd hpes h
        | packet _ header whole => exact ⟨_, header, whole, rfl⟩,
      fun ⟨_, header, whole, ho⟩ => ho ▸ .packet hpes header whole⟩
    simp only [pes_payload_kind, hfrom, hzero, hid, hpes.2, parse_pes_header_summary]
    cases hstatus : parse_pes_header_status seen with
    | Incomplete | Malformed => simp
    | Complete summary =>
      have hle := (parse_pes_header_status.complete hstatus).2.1
      cases hlen : summary.expected_len with
      | none => simp [hlen, hle, eq_comm]
      | some len =>
        by_cases hshort : seen.length < len
        · simp [hlen, hshort]
        · simp [hlen, hle, hshort, Nat.le_of_not_lt hshort, eq_comm]
  · have hkind : pes_payload_kind seen = .NotPes := by
      unfold pes_payload_kind
      split
      · rfl
      rename_i hzero
      split
      · rfl
      rename_i id hid
      have hbyte : byte seen 3 = id := by
        rw [byte, List.getD_eq_getElem?_getD, hid]
        rfl
      exact if_pos fun hlooks =>
        hpes ⟨codeAt_zero.mpr ⟨not_not.mp hzero, hbyte ▸ hid⟩, hbyte ▸ hlooks⟩
    rw [hkind]
    constructor
    · rintro ⟨⟩
      exact ⟨0, .stream hpes, rfl⟩
    · rintro ⟨o, ho, rfl⟩
      cases ho with
      | stream => rfl
      | packet h => exact absurd h hpes

theorem of_mask_and (mask first_mb configured_mask : I32) :
    ((RecordStartCodeInfo.of_mask mask first_mb).map (·.mask &&& configured_mask)).getD 0 =
      mask &&& configured_mask := by
  unfold RecordStartCodeInfo.of_mask
  split
  · rfl
  · next hzero => simp [not_not.mp hzero]

theorem indexed_drop {start bit : Nat} :
    Indexed sc_index_type (bytes.drop start) 0 bit ↔ Indexed sc_index_type bytes start bit := by
  constructor
  · rintro ⟨q, hmet, htells⟩
    exact ⟨start + q, met_drop.mp hmet, by rwa [List.drop_drop, ← Nat.add_assoc] at htells⟩
  · rintro ⟨q, hmet, htells⟩
    obtain ⟨k, rfl⟩ := Nat.exists_eq_add_of_le hmet.code.1
    exact ⟨k, met_drop.mpr hmet, by rwa [List.drop_drop, ← Nat.add_assoc]⟩

/-- The start codes that are reported for what is seen with a payload. -/
def window_bits (sc_index_type : Int) (mask : I32) (seen : List UInt8) : I32 :=
  ((record_sc_info seen sc_index_type mask).map (·.mask &&& mask)).getD 0

theorem window_bits_bits (sc_index_type : Int) (mask : I32) (seen : List UInt8) (bit : Nat) :
    (window_bits sc_index_type mask seen).getLsbD bit = true ↔ mask.getLsbD bit = true ∧
      ∃ offset, SearchedFrom seen offset ∧ Indexed sc_index_type seen offset bit := by
  have hsearched : (∃ offset, SearchedFrom seen offset ∧ Indexed sc_index_type seen offset bit) ↔
      ∃ bytes, searched seen = some bytes ∧ Indexed sc_index_type bytes 0 bit := by
    constructor
    · rintro ⟨offset, hfrom, hindexed⟩
      exact ⟨_, searched_eq_some.mpr ⟨offset, hfrom, rfl⟩, indexed_drop.mpr hindexed⟩
    · rintro ⟨bytes, hsearched, hindexed⟩
      obtain ⟨offset, hfrom, rfl⟩ := searched_eq_some.mp hsearched
      exact ⟨offset, hfrom, indexed_drop.mp hindexed⟩
  rw [hsearched]
  unfold window_bits record_sc_info searched
  split
  · next hnothing =>
    refine iff_of_false (by simp) ?_
    rintro ⟨hbit, bytes, -, q, -, info, hparse, -⟩
    rcases hnothing with rfl | rfl
    · cases hparse
    · simp at hbit
  have hscan (bytes : List UInt8) := @scan_start_codes_bits bytes sc_index_type mask bit
    (bytes.length + 1) 0 {} (by omega)
  cases pes_payload_kind seen with
  | MalformedPes => simp
  | NotPes | ElementaryStream stream =>
    rw [of_mask_and, BitVec.getLsbD_and, Bool.and_eq_true, hscan, and_comm]
    simp

/-! ## What a payload shows -/

section
variable {whole earlier piece later : List UInt8} {bit : Nat}

variable (sc_index_type whole earlier piece) in
/-- The search of a payload, with the three bytes before it, meets the start code at `q`, and its
bytes up to the end of the payload tell a kind with this bit. -/
def ShownBy (q bit : Nat) : Prop :=
  (∃ offset, SearchedFrom ((earlier ++ piece).drop (earlier.length - 3)) offset ∧
    Met whole (earlier.length - 3 + offset) q) ∧
  ∃ n, q + 3 + n ≤ (earlier ++ piece).length ∧ Tells sc_index_type ((whole.drop (q + 3)).take n) bit

theorem shown_iff (hwhole : earlier ++ piece ++ later = whole) :
    (∃ offset, SearchedFrom ((earlier ++ piece).drop (earlier.length - 3)) offset ∧
        Indexed sc_index_type ((earlier ++ piece).drop (earlier.length - 3)) offset bit) ↔
      ∃ q, ShownBy sc_index_type whole earlier piece q bit := by
  subst hwhole
  unfold ShownBy
  generalize earlier ++ piece = came, earlier.length - 3 = start
  constructor
  · rintro ⟨offset, hfrom, k, hmet, htells⟩
    replace hmet := met_drop.mp hmet
    have hinside := hmet.code.2.inside
    refine ⟨start + k, ⟨offset, hfrom, (met_append _ hinside).mpr hmet⟩,
      came.length - (start + k + 3), by omega, ?_⟩
    rw [List.drop_append_of_le_length (by omega), ← List.length_drop, List.take_left]
    rwa [List.drop_drop, ← Nat.add_assoc] at htells
  · rintro ⟨q, ⟨offset, hfrom, hmet⟩, n, hle, htells⟩
    have hn : n ≠ 0 := by
      rintro rfl
      exact not_tells_nil htells
    rw [met_append _ (by omega)] at hmet
    obtain ⟨k, rfl⟩ := Nat.exists_eq_add_of_le (Nat.le_of_add_right_le hmet.code.1)
    refine ⟨offset, hfrom, k, met_drop.mpr hmet, ?_⟩
    rw [List.drop_append_of_le_length (by omega),
      List.take_append_of_le_length (by rw [List.length_drop]; omega)] at htells
    have hall := htells.append ((came.drop (start + k + 3)).drop n)
    rwa [List.take_append_drop, Nat.add_assoc, ← List.drop_drop] at hall

/-- A payload of a division shows a start code of a kind with this bit. -/
def ShownIn (sc_index_type : Int) (whole : List UInt8) (payloads : List (List UInt8)) (bit : Nat) :
    Prop :=
  ∃ earlier piece later, payloads = earlier ++ piece :: later ∧
    ∃ q, ShownBy sc_index_type whole earlier.flatten piece q bit

end

/-! ## Packets one after the other -/

/-- A clear packet that goes on from the one before it, and the place of its payload in the
recording. -/
structure Piece where
  packet : ValidatedTsPacket
  cumulative_bytes : Nat
  payload : List UInt8
  payload_eq : packet.view.payload = some payload
  no_error : packet.view.transport_error_indicator = false
  clear : packet.view.scrambling_control = 0
  in_order : packet.view.flags.discontinuity_indicator = false
  in_range : (cumulative_bytes : Int) ≤ I64_MAX

/-- The start codes that an event reports. -/
def sc_bits (event : Option TsRecordEventData) : I32 := (event.map (·.sc_index_mask_bits)).getD 0

variable (ts_mask : I32) (state : RecordEventState) (payload : List UInt8)

theorem observe_pts_carry (start : Bool) :
    (state.observe_pts payload start).2.sc_prefix_carry = state.sc_prefix_carry := by
  unfold RecordEventState.observe_pts RecordEventState.observe_pts_at_start
  dsimp only
  split_ifs <;> first | rfl | (split <;> rfl)

theorem payload_with_sc_carry.spec :
    (state.payload_with_sc_carry payload).1 = state.sc_prefix_carry ++ payload ∧
      (state.payload_with_sc_carry payload).2.sc_prefix_carry =
        tail 3 (state.sc_prefix_carry ++ payload) := by
  refine ⟨rfl, ?_⟩
  unfold RecordEventState.payload_with_sc_carry tail
  dsimp only
  congr 1
  omega

theorem observe_payload_clear (piece : Piece) (sc_index_type : Int) (mask : I32)
    (state : RecordEventState) :
    (observe_payload piece.packet.view sc_index_type mask state).1.2 =
        record_sc_info (state.sc_prefix_carry ++ piece.payload) sc_index_type mask ∧
      (observe_payload piece.packet.view sc_index_type mask state).2.sc_prefix_carry =
        tail 3 (state.sc_prefix_carry ++ piece.payload) := by
  unfold observe_payload
  rw [if_pos piece.clear, piece.payload_eq, Option.getD_some]
  have hcarry := observe_pts_carry state piece.payload piece.packet.view.payload_unit_start
  have hspec := payload_with_sc_carry.spec
    (state.observe_pts piece.payload piece.packet.view.payload_unit_start).2 piece.payload
  rw [hcarry] at hspec
  exact ⟨by rw [← hspec.1], hspec.2⟩

/-- One packet: it is seen with what the last one left. -/
theorem build_clear (piece : Piece) (ts_mask : I32) (sc_index_type : Int) (mask : I32)
    (state : RecordEventState) :
    sc_bits (build_ts_record_event_data_from_validated piece.packet piece.cumulative_bytes ts_mask
        sc_index_type mask state).1 =
        window_bits sc_index_type mask (state.sc_prefix_carry ++ piece.payload) ∧
      (build_ts_record_event_data_from_validated piece.packet piece.cumulative_bytes ts_mask
        sc_index_type mask state).2.sc_prefix_carry =
        tail 3 (state.sc_prefix_carry ++ piece.payload) := by
  have hspec := observe_payload_clear piece sc_index_type mask
    { state with last_transport_scrambling_control := some piece.packet.view.scrambling_control }
  unfold build_ts_record_event_data_from_validated
  simp only [piece.no_error, piece.in_order, Bool.false_eq_true, if_false]
  generalize observe_payload piece.packet.view sc_index_type mask
    { state with last_transport_scrambling_control := some piece.packet.view.scrambling_control } =
    observed at hspec
  obtain ⟨⟨pts, info⟩, after⟩ := observed
  obtain ⟨rfl, hcarry⟩ := hspec
  split
  · next hnothing => exact ⟨hnothing.2.symm, hcarry⟩
  · rw [if_pos piece.in_range]
    exact ⟨rfl, hcarry⟩

/-- The events of the packets of a recording. -/
def record_events (ts_mask : I32) (sc_index_type : Int) (mask : I32) :
    List Piece → RecordIndexParser → RecordEventState → List (Option TsRecordEventData)
  | [], _, _ => []
  | piece :: rest, parser, state =>
    let (event, parser, state) := parser.push_validated_ts_packet piece.packet
      piece.cumulative_bytes ts_mask sc_index_type mask state
    event :: record_events ts_mask sc_index_type mask rest parser state

theorem record_events_bits (sc_index_type : Int) (mask : I32) (pieces : List Piece)
    (parser : RecordIndexParser) (state : RecordEventState) (before : List UInt8)
    (hcarry : state.sc_prefix_carry = tail 3 before) :
    (record_events ts_mask sc_index_type mask pieces parser state).map sc_bits =
      (windows 3 before (pieces.map (·.payload))).map (window_bits sc_index_type mask) := by
  induction pieces generalizing parser state before with
  | nil => rfl
  | cons piece rest ih =>
    obtain ⟨hbits, hnext⟩ := build_clear piece ts_mask sc_index_type mask state
    rw [hcarry] at hbits hnext
    rw [tail_tail_append] at hnext
    rw [List.map_cons, windows, List.map_cons, ← hbits, ← ih _ _ _ hnext]
    rfl

/-- A start code is reported exactly when it is shown, with a bit of the mask. -/
theorem reported_iff {sc_index_type : Int} {mask : I32} {pieces : List Piece} {whole : List UInt8}
    (hwhole : (pieces.map (·.payload)).flatten = whole) (bit : Nat) :
    (∃ event ∈ record_events ts_mask sc_index_type mask pieces {} {},
        (sc_bits event).getLsbD bit = true) ↔
      mask.getLsbD bit = true ∧ ShownIn sc_index_type whole (pieces.map (·.payload)) bit := by
  have hevents : (∃ event ∈ record_events ts_mask sc_index_type mask pieces {} {},
      (sc_bits event).getLsbD bit = true) ↔ ∃ seen ∈ windows 3 [] (pieces.map (·.payload)),
        (window_bits sc_index_type mask seen).getLsbD bit = true := by
    have hbits := congrArg (fun masks => ∃ m ∈ masks, BitVec.getLsbD m bit = true)
      (record_events_bits ts_mask sc_index_type mask pieces {} {} [] rfl)
    simpa only [List.mem_map, exists_exists_and_eq_and, eq_iff_iff] using hbits
  have hshown {earlier : List (List UInt8)} {piece : List UInt8} {later : List (List UInt8)}
      (hsplit : pieces.map (·.payload) = earlier ++ piece :: later) :
      (∃ offset, SearchedFrom (tail 3 ([] ++ earlier.flatten) ++ piece) offset ∧
        Indexed sc_index_type (tail 3 ([] ++ earlier.flatten) ++ piece) offset bit) ↔
      ∃ q, ShownBy sc_index_type whole earlier.flatten piece q bit := by
    rw [List.nil_append, tail_append]
    refine @shown_iff _ _ _ _ later.flatten _ ?_
    rw [← hwhole, hsplit]
    simp
  rw [hevents]
  constructor
  · rintro ⟨seen, hseen, hbits⟩
    obtain ⟨earlier, piece, later, hsplit, rfl⟩ := mem_windows.mp hseen
    obtain ⟨hmask, hindexed⟩ := (window_bits_bits _ _ _ _).mp hbits
    exact ⟨hmask, earlier, piece, later, hsplit, (hshown hsplit).mp hindexed⟩
  · rintro ⟨hmask, earlier, piece, later, hsplit, hq⟩
    exact ⟨_, mem_windows.mpr ⟨earlier, piece, later, hsplit, rfl⟩,
      (window_bits_bits _ _ _ _).mpr ⟨hmask, (hshown hsplit).mpr hq⟩⟩

end tuner_hal2_demux.record_index
