-- The check word of a section. The engine, the demux and the CAS plugin compute it with a
-- loop of their own each; it is what the bits of the section leave in a shift register.
import TvStack.ShiftRegisters
import TvStack.SiSections

open ShiftRegisters List

def tuner_hal2_demux.crc32_mpeg (bytes : List UInt8) : UInt32 :=
  bytes.foldl (fun crc byte => (fun crc : UInt32 =>
    if (crc &&& 0x80000000) != 0 then (crc <<< 1) ^^^ 0x04c11db7 else crc <<< 1)^[8]
      (crc ^^^ (byte.toUInt32 <<< (24 : UInt32)))) 0xffffffff

def maleicacid.cas.sectionCrc (input : List UInt8) : UInt32 :=
  input.foldl (fun crc byte => (fun crc : UInt32 =>
    (crc <<< 1) ^^^ if (crc &&& 0x80000000) != 0 then 0x04c11db7 else 0)^[8]
      (crc ^^^ (byte.toUInt32 <<< (24 : UInt32)))) 0xffffffff

namespace arib_si_engine_rs.sections

/-- The bits of a string, the highest of each byte first. -/
def bits (bytes : List UInt8) : List Bool :=
  bytes.flatMap fun b => (List.range 8).map b.toBitVec.getMsbD

/-- The bits in which the second string is not the first. -/
def changed (s s' : List UInt8) : Set Nat := {i | (bits s')[i]? ≠ (bits s)[i]?}

def be_bytes (crc : UInt32) : List UInt8 :=
  [24, 16, 8, 0].map fun n : UInt32 => (crc >>> n).toUInt8

abbrev polynomial : BitVec 32 := 0x04c11db7

theorem crc32_shift_feeds :
    Function.Semiconj UInt32.toBitVec crc32_shift (feed polynomial · false) := by
  intro crc
  have htop : crc &&& 0x80000000 = if crc.toBitVec.msb then 0x80000000 else 0 := by
    refine UInt32.toBitVec_inj.mp ?_
    rw [apply_ite UInt32.toBitVec]
    exact BitVec.and_twoPow crc.toBitVec 31
  unfold crc32_shift feed
  rw [htop]
  cases hmsb : crc.toBitVec.msb <;> simp [hmsb]

theorem byte_leads (b : UInt8) :
    Leads (b.toUInt32 <<< (24 : UInt32)).toBitVec ((List.range 8).map b.toBitVec.getMsbD) := by
  refine leads_map_range (by decide) fun i _ => ?_
  have hshift : (b.toUInt32 <<< (24 : UInt32)).toBitVec = b.toBitVec.setWidth 32 <<< 24 := rfl
  rcases Nat.lt_or_ge i 8 with hlt | hge
  · simp [hlt]
  · simp [hge]

/-- The loop of the source is the register over the bits. -/
theorem crc32_bits (bytes : List UInt8) :
    (crc32_mpeg bytes).toBitVec = (bits bytes).foldl (feed polynomial) (BitVec.allOnes 32) := by
  unfold crc32_mpeg bits
  rw [foldl_flatMap]
  refine (foldl_hom UInt32.toBitVec fun crc b => ?_).symm
  rw [crc32_shift_feeds.iterate_right 8, foldl_feed polynomial (byte_leads b)]
  rfl

theorem be_bytes_leads (crc : UInt32) : Leads crc.toBitVec (bits (be_bytes crc)) := by
  have hbyte (n i : Nat) (hn : n ≤ 24) (hi : i < 8) :
      ((crc.toBitVec >>> n).setWidth 8).getMsbD i = crc.toBitVec.getMsbD (24 - n + i) := by
    rw [BitVec.getMsbD_eq_getLsbD, BitVec.getMsbD_eq_getLsbD, BitVec.getLsbD_setWidth,
      BitVec.getLsbD_ushiftRight, show n + (8 - 1 - i) = 32 - 1 - (24 - n + i) by omega]
    simp [hi, show 24 - n + i < 32 by omega]
    omega
  have hbits : bits (be_bytes crc) = (range 32).map crc.toBitVec.getMsbD := calc
    _ = [24, 16, 8, 0].flatMap fun n =>
        (range 8).map ((crc.toBitVec >>> n).setWidth 8).getMsbD := rfl
    _ = [24, 16, 8, 0].flatMap fun n =>
        (range 8).map fun i => crc.toBitVec.getMsbD (24 - n + i) := by
      refine flatMap_congr fun n hn => map_congr_left fun i hi => ?_
      simp only [mem_cons, not_mem_nil, or_false] at hn
      exact hbyte n i (by omega) (mem_range.mp hi)
  rw [hbits]
  exact leads_map_range le_rfl fun i hi => by rw [decide_eq_true hi, Bool.true_and]

theorem section_crc_detects_bursts (m s s' : List UInt8) (k : Nat) :
    crc32_mpeg (m ++ be_bytes (crc32_mpeg m)) = 0 ∧
    (crc32_mpeg s = 0 → s'.length = s.length → (changed s s').Nonempty →
      changed s s' ⊆ Set.Ico k (k + 32) → crc32_mpeg s' ≠ 0) ∧
    tuner_hal2_demux.crc32_mpeg m = crc32_mpeg m ∧ maleicacid.cas.sectionCrc m = crc32_mpeg m := by
  refine ⟨?_, fun hs hlen hne hwindow hs' => ?_, rfl, ?_⟩
  · refine UInt32.toBitVec_inj.mp ?_
    rw [crc32_bits, bits, flatMap_append, foldl_append, ← bits, ← crc32_bits, ← bits,
      foldl_feed _ (be_bytes_leads _), BitVec.xor_self]
    exact Function.iterate_fixed rfl _
  · have hbits : (bits s').length = (bits s).length := by simp [bits, hlen]
    have hsum := foldl_feed_xor polynomial hbits (BitVec.allOnes 32) (BitVec.allOnes 32)
    rw [← crc32_bits, ← crc32_bits, hs, hs'] at hsum
    obtain ⟨i, hi⟩ := hne
    exact burst_ne_zero rfl (mem_of_getElem? ((zipWith_xor_eq_true hbits i).mpr hi))
      (fun j hj => hwindow ((zipWith_xor_eq_true hbits j).mp hj)) hsum
  · have hshift : (fun crc : UInt32 => (crc <<< 1) ^^^
        if (crc &&& 0x80000000) != 0 then 0x04c11db7 else 0) = crc32_shift := by
      funext crc
      unfold crc32_shift
      split
      · rfl
      · exact UInt32.xor_zero
    rw [maleicacid.cas.sectionCrc, hshift]
    rfl

/-- A section whose first byte comes with its last bit changed. -/
theorem a_flipped_bit_is_detected : crc32_mpeg (0x43 :: be_bytes (crc32_mpeg [0x42])) ≠ 0 := by
  refine (section_crc_detects_bursts [] (0x42 :: be_bytes (crc32_mpeg [0x42])) _ 0).2.1
    (section_crc_detects_bursts [0x42] [] [] 0).1 rfl ⟨7, ?_⟩ fun i hi => ?_
  · exact fun h => absurd (Option.some.inj h) Bool.noConfusion
  · refine ⟨Nat.zero_le i, not_le.mp fun hge => hi ?_⟩
    unfold bits
    rw [flatMap_cons, flatMap_cons, getElem?_append_right, getElem?_append_right, length_map,
      length_map]
    all_goals
      rw [length_map, length_range]
      omega

end arib_si_engine_rs.sections
