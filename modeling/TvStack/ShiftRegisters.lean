-- Shift registers with feedback, as a cyclic redundancy check uses them. What a list of
-- bits leaves in a register is linear in the bits and in the register.
import Mathlib.Data.BitVec
import Mathlib.Logic.Function.Iterate

open List

namespace ShiftRegisters

variable {w : Nat} (p : BitVec w)

/-- A bit goes in at the top, and what leaves there brings the polynomial in. -/
def feed (x : BitVec w) (b : Bool) : BitVec w := (x <<< 1) ^^^ if x.msb ^^ b then p else 0

/-- The word has these bits at its top, and none below them. -/
def Leads (y : BitVec w) (bits : List Bool) : Prop :=
  bits.length ≤ w ∧ ∀ i < w, y.getMsbD i = bits.getD i false

theorem exists_leads {bits : List Bool} (h : bits.length ≤ w) : ∃ y : BitVec w, Leads y bits := by
  refine ⟨(BitVec.ofBoolListBE (ofFn fun i : Fin w => bits.getD i false)).cast
    (length_ofFn), h, fun i hi => ?_⟩
  simp [hi]

theorem leads_map_range {y : BitVec w} {n : Nat} {f : Nat → Bool} (hn : n ≤ w)
    (h : ∀ i < w, y.getMsbD i = (decide (i < n) && f i)) : Leads y ((List.range n).map f) := by
  refine ⟨by simpa using hn, fun i hi => ?_⟩
  rw [h i hi]
  rcases Nat.lt_or_ge i n with hlt | hge
  · simp [hlt]
  · simp [hge]

theorem feed_xor (x y : BitVec w) (a b : Bool) :
    feed p (x ^^^ y) (a ^^ b) = feed p x a ^^^ feed p y b := by
  have hswap (s t u v : BitVec w) : (s ^^^ t) ^^^ (u ^^^ v) = (s ^^^ u) ^^^ (t ^^^ v) := by ac_rfl
  unfold feed
  rw [BitVec.shiftLeft_xor_distrib, BitVec.msb_xor, hswap]
  cases x.msb <;> cases y.msb <;> cases a <;> cases b <;> simp

theorem foldl_feed_xor {as bs : List Bool} (h : as.length = bs.length) (x y : BitVec w) :
    (List.zipWith Bool.xor as bs).foldl (feed p) (x ^^^ y) =
      as.foldl (feed p) x ^^^ bs.foldl (feed p) y := by
  induction as generalizing bs x y with
  | nil =>
    cases bs with
    | nil => rfl
    | cons b bs => cases h
  | cons a as ih =>
    cases bs with
    | nil => cases h
    | cons b bs =>
      rw [zipWith_cons_cons, foldl_cons, feed_xor]
      exact ih (Nat.succ.inj h) _ _

/-- The sum of two lists has its ones where they differ. -/
theorem zipWith_xor_eq_true {as bs : List Bool} (h : as.length = bs.length) (i : Nat) :
    (List.zipWith Bool.xor as bs)[i]? = some true ↔ as[i]? ≠ bs[i]? := by
  rw [getElem?_zipWith]
  rcases Nat.lt_or_ge i as.length with hlt | hge
  · simp [getElem?_eq_getElem hlt, getElem?_eq_getElem (h ▸ hlt)]
  · simp [getElem?_eq_none hge, getElem?_eq_none (h ▸ hge)]

/-- Bits that go in one after the other leave what they leave when they are added at once. -/
theorem foldl_feed {bits : List Bool} {y : BitVec w} (h : Leads y bits) (x : BitVec w) :
    bits.foldl (feed p) x = (feed p · false)^[bits.length] (x ^^^ y) := by
  induction bits generalizing x y with
  | nil =>
    have hzero : y = 0#w := BitVec.eq_of_getMsbD_eq fun i hi => by simp [h.2 i hi]
    simp [hzero]
  | cons b bits ih =>
    obtain ⟨hlen, hbits⟩ := h
    rw [length_cons] at hlen
    have hmsb : y.msb = b := by
      rw [BitVec.msb_eq_getMsbD_zero, hbits 0 (by omega)]
      rfl
    have hnext : Leads (y <<< 1) bits := by
      refine ⟨by omega, fun i hi => ?_⟩
      rw [BitVec.getMsbD_shiftLeft]
      rcases Nat.lt_or_ge (i + 1) w with hlt | hge
      · exact hbits (i + 1) hlt
      · rw [BitVec.getMsbD_of_ge _ _ hge, getD_eq_getElem?_getD,
          getElem?_eq_none (by omega), Option.getD_none]
    have hfeed : feed p (x ^^^ y) false = feed p x b ^^^ (y <<< 1) := by
      unfold feed
      rw [BitVec.shiftLeft_xor_distrib, BitVec.msb_xor, hmsb]
      ac_rfl
    rw [foldl_cons, ih hnext, length_cons, Function.iterate_succ_apply, hfeed]

theorem foldl_feed_zero {bits : List Bool} (h : ∀ b ∈ bits, b = false) :
    bits.foldl (feed p) 0#w = 0#w := by
  refine foldlRecOn (motive := (· = 0#w)) bits (feed p) rfl fun x hx b hb => ?_
  rw [hx, h b hb]
  simp [feed]

variable {p} (hp : p.getLsbD 0 = true)

include hp

theorem feed_ne_zero {x : BitVec w} (hx : x ≠ 0#w) : feed p x false ≠ 0#w := by
  intro hzero
  have hbit (i : Nat) : (feed p x false).getLsbD i = false := by rw [hzero, BitVec.getLsbD_zero]
  unfold feed at hbit
  have hmsb : x.msb = false := by
    have hlow := hbit 0
    cases hm : x.msb with
    | false => rfl
    | true => simp [hm, hp] at hlow
  refine hx (BitVec.eq_of_getLsbD_eq fun i hi => ?_)
  rw [BitVec.getLsbD_zero]
  rcases Nat.lt_or_ge (i + 1) w with hlt | hge
  · simpa [hmsb, hlt, BitVec.getLsbD_eq_getElem hi] using hbit (i + 1)
  · rw [show i = w - 1 by omega, ← BitVec.msb_eq_getLsbD_last, hmsb]

/-- A burst no longer than the register leaves something in it. -/
theorem burst_ne_zero {bits : List Bool} {k : Nat} (hone : true ∈ bits)
    (hwindow : ∀ i, bits[i]? = some true → k ≤ i ∧ i < k + w) : bits.foldl (feed p) 0#w ≠ 0#w := by
  have hfalse {i : Nat} {b : Bool} (hi : bits[i]? = some b) (hout : ¬ (k ≤ i ∧ i < k + w)) :
      b = false := by
    cases b with
    | false => rfl
    | true => exact absurd (hwindow i hi) hout
  have hbefore : ∀ b ∈ bits.take k, b = false := by
    intro b hb
    obtain ⟨i, hi⟩ := mem_iff_getElem?.mp hb
    rw [getElem?_take] at hi
    split at hi
    · exact hfalse hi (by omega)
    · cases hi
  have hafter : ∀ b ∈ (bits.drop k).drop w, b = false := by
    intro b hb
    obtain ⟨i, hi⟩ := mem_iff_getElem?.mp hb
    rw [getElem?_drop, getElem?_drop] at hi
    exact hfalse hi (by omega)
  obtain ⟨y, hy⟩ : ∃ y : BitVec w, Leads y ((bits.drop k).take w) :=
    exists_leads (length_take_le _ _)
  have hyne : y ≠ 0#w := by
    obtain ⟨i, hi⟩ := mem_iff_getElem?.mp hone
    obtain ⟨hk, hlt⟩ := hwindow i hi
    intro hzero
    have hbit := hy.2 (i - k) (by omega)
    rw [hzero, getD_eq_getElem?_getD, getElem?_take_of_lt (by omega), getElem?_drop,
      Nat.add_sub_cancel' hk, hi] at hbit
    simp at hbit
  rw [← take_append_drop k bits, foldl_append, foldl_feed_zero p hbefore,
    ← take_append_drop w (bits.drop k), foldl_append]
  refine foldlRecOn (motive := (· ≠ 0#w)) _ _ ?_ fun x hx b hb =>
    hafter b hb ▸ feed_ne_zero hp hx
  rw [foldl_feed p hy, BitVec.zero_xor]
  exact Function.Iterate.rec (· ≠ 0#w) hyne (fun x hx => feed_ne_zero hp hx) _

end ShiftRegisters
