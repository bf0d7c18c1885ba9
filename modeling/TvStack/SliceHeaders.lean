-- The slice headers of AVC. A reader of bits is where it stands in the bits of its bytes;
-- the numbers it reads are the Exp-Golomb codes there.
import TvStack.RecordIndex
import TvStack.SectionCrcs

open List

namespace tuner_hal2_demux.record_index

open arib_si_engine_rs.sections (bits)

/-! ## Exp-Golomb codes -/

/-- The number that the bits write, the highest first. -/
def number : List Bool → Nat
  | [] => 0
  | b :: word => b.toNat * 2 ^ word.length + number word

/-- The code with this suffix: as many zeros as it has bits, a one, and the suffix. -/
def codeword (suffix : List Bool) : List Bool := replicate suffix.length false ++ true :: suffix

/-- The number that the code stands for. -/
def coded (suffix : List Bool) : Nat := 2 ^ suffix.length - 1 + number suffix

theorem number_lt (word : List Bool) : number word < 2 ^ word.length := by
  induction word with
  | nil => decide
  | cons b word ih =>
    rw [number, length_cons, Nat.pow_succ]
    cases b <;> simp <;> omega

theorem number_pos {word : List Bool} : 0 < number word ↔ true ∈ word := by
  induction word with
  | nil => simp [number]
  | cons b word ih => cases b <;> simp [number, ih]

/-- A string starts with one code at most. -/
theorem codeword_inj {s t a b : List Bool} (h : codeword s ++ a = codeword t ++ b) :
    s = t ∧ a = b := by
  have hzeros (s a : List Bool) : (codeword s ++ a).idxOf true = s.length := by
    rw [codeword, append_assoc, idxOf_append_of_notMem (by simp)]
    simp
  have hlength : s.length = t.length := by rw [← hzeros s a, h, hzeros]
  rw [codeword, codeword, hlength, append_assoc, append_assoc] at h
  exact append_inj (cons.inj (append_cancel_left h)).2 hlength

theorem bits_getElem? (bytes : List UInt8) (i : Nat) :
    (bits bytes)[i]? = bytes[i / 8]?.map fun b => b.toBitVec.getMsbD (i % 8) := by
  induction bytes generalizing i with
  | nil => rfl
  | cons b bytes ih =>
    have hbits : bits (b :: bytes) = (range 8).map b.toBitVec.getMsbD ++ bits bytes := rfl
    rw [hbits]
    rcases Nat.lt_or_ge i 8 with hlt | hge
    · rw [getElem?_append_left (by simpa using hlt), Nat.div_eq_of_lt hlt, Nat.mod_eq_of_lt hlt]
      simp [hlt]
    · obtain ⟨j, rfl⟩ := Nat.exists_eq_add_of_le hge
      rw [getElem?_append_right (by simp), Nat.add_div_left j (by decide), Nat.add_mod_left]
      simpa using ih j

/-! ## The reader -/

namespace BitReader

variable {r r' : BitReader} {b : Bool} {word tail suffix : List Bool}

/-- The bits that are not read yet. -/
def rest (r : BitReader) : List Bool := (bits r.bytes).drop r.bit_offset

def skip (r : BitReader) (n : Nat) : BitReader := { r with bit_offset := r.bit_offset + n }

theorem rest_skip (h : r.rest = word ++ tail) : (r.skip word.length).rest = tail := by
  unfold rest skip at *
  rw [← drop_drop, h, drop_left]

theorem skip_skip (m n : Nat) : (r.skip m).skip n = r.skip (m + n) := by
  simp [skip, Nat.add_assoc]

theorem read_bit_eq (r : BitReader) :
    r.read_bit = r.rest.head?.map fun b => (if b then 1 else 0, r.skip 1) := by
  have hbit : ∀ b : UInt8, ∀ k < 8,
      (b >>> UInt8.ofNat (7 - k)) &&& 1 = if b.toBitVec.getMsbD k then 1 else 0 :=
    Words.every_byte (by decide +kernel)
  rw [read_bit, rest, head?_drop, bits_getElem?, Option.map_map]
  congr 1
  funext b
  rw [hbit b _ (Nat.mod_lt _ (by decide))]
  rfl

theorem read_bit_cons (h : r.rest = b :: tail) :
    r.read_bit = some (if b then 1 else 0, r.skip 1) ∧ (r.skip 1).rest = tail := by
  have hone : r.rest = [b] ++ tail := h
  rw [read_bit_eq, h]
  exact ⟨rfl, rest_skip hone⟩

theorem read_bits_onto_append (value : Nat) (h : r.rest = word ++ tail) :
    read_bits_onto word.length value r =
      some (value * 2 ^ word.length + number word, r.skip word.length) := by
  induction word generalizing value r with
  | nil => simp [read_bits_onto, number, skip]
  | cons b word ih =>
    obtain ⟨hbit, hrest⟩ := read_bit_cons h
    have hvalue : (value <<< 1) ||| (if b then 1 else 0 : UInt8).toNat = 2 * value + b.toNat := by
      rw [← Nat.shiftLeft_add_eq_or_of_lt (by cases b <;> decide), Nat.shiftLeft_eq]
      cases b <;> simp [Nat.mul_comm]
    rw [length_cons, read_bits_onto, hbit]
    refine (ih _ hrest).trans ?_
    rw [hvalue, skip_skip, Nat.add_comm 1, number, Nat.pow_succ]
    ring_nf

theorem read_bits_onto_none {count : Nat} (value : Nat) (h : r.rest.length < count) :
    read_bits_onto count value r = none := by
  induction count generalizing value r with
  | zero => cases h
  | succ count ih =>
    rw [read_bits_onto]
    rcases hbits : r.rest with _ | ⟨b, tail⟩
    · rw [read_bit_eq, hbits]
      rfl
    · obtain ⟨hbit, hrest⟩ := read_bit_cons hbits
      rw [hbit]
      refine ih _ ?_
      rw [hbits, length_cons] at h
      rw [hrest]
      omega

theorem leading_zero_bits_append {m room : Nat} (zeros : Nat) (hroom : m ≤ room)
    (h : r.rest = replicate m false ++ true :: tail) :
    leading_zero_bits room zeros r = some (zeros + m, r.skip (m + 1)) ∧
      (r.skip (m + 1)).rest = tail := by
  induction m generalizing room zeros r with
  | zero =>
    obtain ⟨hbit, hrest⟩ := read_bit_cons h
    unfold leading_zero_bits
    rw [hbit]
    exact ⟨rfl, hrest⟩
  | succ m ih =>
    obtain ⟨room, rfl⟩ : ∃ k, room = k + 1 := ⟨room - 1, by omega⟩
    obtain ⟨hbit, hrest⟩ := read_bit_cons h
    have hnext := ih (zeros + 1) (Nat.le_of_succ_le_succ hroom) hrest
    rw [skip_skip, Nat.add_comm 1, Nat.add_right_comm] at hnext
    unfold leading_zero_bits
    rw [hbit]
    exact hnext

theorem exists_leading_zero_bits {room zeros : Nat} {x : Nat × BitReader}
    (hbits : r.rest = word) (h : leading_zero_bits room zeros r = some x) :
    ∃ m ≤ room, ∃ tail, word = replicate m false ++ true :: tail := by
  induction word generalizing room zeros r with
  | nil =>
    rw [leading_zero_bits, read_bit_eq, hbits] at h
    cases h
  | cons b word ih =>
    obtain ⟨hbit, hrest⟩ := read_bit_cons hbits
    rw [leading_zero_bits, hbit] at h
    cases b with
    | true => exact ⟨0, Nat.zero_le _, word, rfl⟩
    | false =>
      cases room with
      | zero => cases h
      | succ room =>
        obtain ⟨m, hm, tail, rfl⟩ := ih hrest h
        exact ⟨m + 1, Nat.succ_le_succ hm, tail, rfl⟩

theorem read_suffix_eq (r : BitReader) (n : Nat) : r.read_suffix n = read_bits_onto n 0 r := by
  unfold read_suffix
  split
  · next hzero => rw [hzero, read_bits_onto]
  · rfl

/-- A code in front of the reader is read, and its number is the answer. -/
theorem read_ue_codeword (hlength : suffix.length ≤ 31) (h : r.rest = codeword suffix ++ tail) :
    r.read_ue = some (coded suffix, r.skip (codeword suffix).length) := by
  rw [codeword, append_assoc, cons_append] at h
  obtain ⟨hzeros, hrest⟩ := leading_zero_bits_append 0 hlength h
  have hskip : suffix.length + 1 + suffix.length = (codeword suffix).length := by
    simp [codeword, Nat.add_assoc, Nat.add_comm 1]
  rw [read_ue, hzeros, Nat.zero_add]
  dsimp only [Option.bind_eq_bind, Option.bind_some]
  rw [read_suffix_eq, read_bits_onto_append 0 hrest, skip_skip, hskip]
  simp [coded, Nat.shiftLeft_eq]

/-- Where the reader answers, it stands in front of a code. -/
theorem exists_codeword {x : Nat × BitReader} (h : r.read_ue = some x) :
    ∃ suffix tail, suffix.length ≤ 31 ∧ r.rest = codeword suffix ++ tail := by
  obtain ⟨⟨zeros, r₁⟩, hzeros, hrest⟩ := Option.bind_eq_some_iff.mp h
  obtain ⟨⟨n, r₂⟩, hsuffix, -⟩ := Option.bind_eq_some_iff.mp hrest
  obtain ⟨m, hm, tail, hbits⟩ := exists_leading_zero_bits rfl hzeros
  obtain ⟨heq, htail⟩ := leading_zero_bits_append 0 hm hbits
  cases heq.symm.trans hzeros
  rw [read_suffix_eq, Nat.zero_add] at hsuffix
  rcases Nat.lt_or_ge tail.length m with hshort | henough
  · rw [read_bits_onto_none 0 (htail ▸ hshort)] at hsuffix
    cases hsuffix
  · have hlength : (tail.take m).length = m := length_take_of_le henough
    refine ⟨tail.take m, tail.drop m, hlength.trans_le hm, ?_⟩
    rw [codeword, hlength, append_assoc, cons_append, take_append_drop, hbits]

end BitReader

/-! ## The index of a slice -/

/-- A payload without the three in each `0 0 3`, which keeps start codes out of it. -/
def unescaped : List UInt8 → List UInt8
  | a :: b :: c :: rest =>
    if a = 0 ∧ b = 0 ∧ c = 3 then a :: b :: unescaped rest else a :: unescaped (b :: c :: rest)
  | bytes => bytes

theorem unescaped_cons {a : UInt8} {rest : List UInt8} (h : a = 0 → ¬ [0, 3] <+: rest) :
    unescaped (a :: rest) = a :: unescaped rest := by
  rcases rest with _ | ⟨b, _ | ⟨c, rest⟩⟩
  · rfl
  · rfl
  · rw [unescaped, if_neg]
    rintro ⟨ha, rfl, rfl⟩
    exact h ha (prefix_append [0, 3] rest)

/-- The count of zeros in the loop stands for the zeros in front. -/
theorem nal_to_rbsp_from_eq (bytes : List UInt8) :
    nal_to_rbsp_from 0 bytes = unescaped bytes ∧
    0 :: nal_to_rbsp_from 1 bytes = unescaped (0 :: bytes) ∧
    ∀ n, 0 :: 0 :: nal_to_rbsp_from (n + 2) bytes = unescaped (0 :: 0 :: bytes) := by
  induction bytes with
  | nil => exact ⟨rfl, rfl, fun _ => rfl⟩
  | cons b rest ih =>
    obtain ⟨hnone, hone, hmore⟩ := ih
    by_cases hzero : b = 0
    · subst hzero
      refine ⟨hone, hmore 0, fun n => ?_⟩
      rw [unescaped_cons (by simp), ← hmore (n + 1)]
      rfl
    · have hplain : unescaped (b :: rest) = b :: nal_to_rbsp_from 0 rest := by
        rw [unescaped_cons (by simp [hzero]), hnone]
      have hnext : unescaped (0 :: b :: rest) = 0 :: b :: nal_to_rbsp_from 0 rest := by
        rw [unescaped_cons (by simp [Ne.symm hzero]), hplain]
      refine ⟨?_, ?_, fun n => ?_⟩
      · rw [hplain]
        simp [nal_to_rbsp_from, hzero]
      · rw [hnext]
        simp [nal_to_rbsp_from, hzero]
      · by_cases hthree : b = 3
        · subst hthree
          simp [nal_to_rbsp_from, unescaped, hnone]
        · rw [unescaped_cons (by simp [Ne.symm hthree]), hnext]
          simp [nal_to_rbsp_from, hzero, hthree]

/-- The index has the numbers of the two codes at the start of the payload. -/
def Indexes (payload : List UInt8) (info : RecordStartCodeInfo) : Prop :=
  ∃ first second tail, bits (unescaped payload) = codeword first ++ (codeword second ++ tail) ∧
    info.first_mb_in_slice.toInt = coded first ∧ info.mask = avc_slice_mask (coded second % 5)

/-- The payload starts with a code of 63 bits, with a one among the last 31. -/
def StartsWide (payload : List UInt8) : Prop :=
  ∃ first tail, bits (unescaped payload) = codeword first ++ tail ∧ first.length = 31 ∧ true ∈ first

theorem toInt_coded {first : List Bool} (h : first.length ≤ 31) :
    (BitVec.ofNat 32 (coded first)).toInt = coded first ↔ ¬ (first.length = 31 ∧ true ∈ first) := by
  have hnumber := number_lt first
  have hfits : coded first < 2 ^ 31 ↔ ¬ (first.length = 31 ∧ 0 < number first) := by
    unfold coded
    rcases Nat.lt_or_eq_of_le h with hlt | heq
    · have hpow : 2 ^ first.length ≤ 2 ^ 30 := Nat.pow_le_pow_right (by decide) (by omega)
      omega
    · rw [heq] at hnumber ⊢
      omega
  have hword : coded first < 2 ^ 32 := by
    have hpow : 2 ^ first.length ≤ 2 ^ 31 := Nat.pow_le_pow_right (by decide) h
    unfold coded
    omega
  rw [← number_pos, ← hfits, BitVec.toInt_eq_toNat_cond, BitVec.toNat_ofNat,
    Nat.mod_eq_of_lt hword]
  split <;> omega

theorem avc_slice_index_is_exact {header : UInt8} {payload : List UInt8}
    {info : RecordStartCodeInfo} (h : parse_avc_sc_index (header :: payload) = some info) :
    Indexes payload info ↔ ¬ StartsWide payload := by
  dsimp only [parse_avc_sc_index] at h
  split at h
  swap
  · cases h
  obtain ⟨⟨first_mb, r⟩, hfirst, hrest⟩ := Option.bind_eq_some_iff.mp h
  obtain ⟨⟨slice_type, r'⟩, hsecond, hinfo⟩ := Option.bind_eq_some_iff.mp hrest
  obtain ⟨first, tail, hlength, hbits⟩ := BitReader.exists_codeword hfirst
  cases (BitReader.read_ue_codeword hlength hbits).symm.trans hfirst
  obtain ⟨second, tail', hlength', hbits'⟩ := BitReader.exists_codeword hsecond
  cases (BitReader.read_ue_codeword hlength' hbits').symm.trans hsecond
  rw [BitReader.rest_skip hbits] at hbits'
  subst hbits'
  rw [BitReader.rest, drop_zero, nal_to_rbsp, (nal_to_rbsp_from_eq payload).1] at hbits
  unfold RecordStartCodeInfo.of_mask at hinfo
  split at hinfo
  swap
  · cases hinfo
  cases hinfo
  constructor
  · rintro ⟨first', second', tail'', heq, hmb, -⟩ ⟨wide, more, hwide, hwidth⟩
    obtain rfl := (codeword_inj (hbits.symm.trans heq)).1
    obtain rfl := (codeword_inj (hbits.symm.trans hwide)).1
    exact (toInt_coded hlength).mp hmb hwidth
  · intro hnarrow
    have hmb := (toInt_coded hlength).mpr fun hwidth => hnarrow ⟨first, _, hbits, hwidth⟩
    exact ⟨first, second, tail', hbits, hmb, rfl⟩

theorem an_intra_slice_is_indexed : Indexes [0x88] ⟨AVC_SC_I_SLICE, 0⟩ := by
  refine (avc_slice_index_is_exact (rfl : parse_avc_sc_index [0x65, 0x88] = _)).mpr ?_
  rintro ⟨first, tail, hbits, hlength, -⟩
  -- one byte has no room for a code of 63 bits
  have hroom := congrArg length hbits
  simp [codeword, hlength, show (bits (unescaped [0x88])).length = 8 from rfl] at hroom

/-- A slice whose first code has 31 ones behind the one in its middle. -/
def wide_slice : List UInt8 := [0x65, 0x00, 0x00, 0x03, 0x00, 0x01, 0xff, 0xff, 0xff, 0xff]

theorem a_wide_code_gives_a_negative_index :
    parse_avc_sc_index wide_slice = some ⟨AVC_SC_P_SLICE, -2⟩ ∧
      coded (replicate 31 true) = 4294967294 ∧
      bits (unescaped wide_slice.tail) = codeword (replicate 31 true) ++ codeword [] ∧
      ¬ Indexes wide_slice.tail ⟨AVC_SC_P_SLICE, -2⟩ := by
  have hbits : bits (unescaped wide_slice.tail) = codeword (replicate 31 true) ++ codeword [] := rfl
  refine ⟨by decide +kernel, rfl, hbits, ?_⟩
  rintro ⟨first, second, tail, heq, hmb, -⟩
  obtain rfl := (codeword_inj (hbits.symm.trans heq)).1
  exact absurd hmb (by decide)

end tuner_hal2_demux.record_index
