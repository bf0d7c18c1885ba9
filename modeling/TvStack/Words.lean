-- The machine words of Rust and the bytes of its slices, as the models of this
-- project read them.
import Mathlib.Algebra.Order.Ring.Int
import Mathlib.Data.List.GetD

namespace Words

/-- `usize::MAX` and `u64::MAX` of the 64-bit targets. -/
def USIZE_MAX : Nat := 2 ^ 64 - 1
def U64_MAX : Nat := 2 ^ 64 - 1

/-- `i64::MAX` -/
def I64_MAX : Int := 2 ^ 63 - 1

/-- `a.checked_add(b)` of a word with the largest value `max`. -/
def checked_add (max a b : Nat) : Option Nat := if a + b ≤ max then some (a + b) else none

/-- `a.checked_sub(b)` -/
def checked_sub (a b : Nat) : Option Nat := if b ≤ a then some (a - b) else none

/-- `a.checked_mul(b)` of a word with the largest value `max`. -/
def checked_mul (max a b : Nat) : Option Nat := if a * b ≤ max then some (a * b) else none

/-- `a.saturating_add(b)` of a word with the largest value `max`. -/
def saturating_add (max a b : Nat) : Nat := min (a + b) max

/-- A sum that fits does not saturate. -/
theorem foldl_saturating_add {max : Nat} (ns : List Nat) (total : Nat) (h : total + ns.sum ≤ max) :
    ns.foldl (saturating_add max) total = total + ns.sum := by
  induction ns generalizing total with
  | nil => rfl
  | cons n rest ih =>
    rw [List.sum_cons] at h ⊢
    have hfirst : saturating_add max total n = total + n := Nat.min_eq_left (by omega)
    rw [List.foldl_cons, hfirst, ih (total + n) (by omega), Nat.add_assoc]

/-- A fold of `checked_add` over numbers. -/
def checked_sum (max : Nat) : Nat → List Nat → Option Nat
  | total, [] => some total
  | total, n :: rest => (checked_add max total n).bind (checked_sum max · rest)

/-- A value behind a check that returns early. -/
theorem of_check {ε α : Type*} {c : Prop} [Decidable c] {e : ε} {r : Except ε α} {a : α}
    (h : (if c then .error e else r) = .ok a) : ¬ c ∧ r = .ok a := by
  by_cases hc : c
  · rw [if_pos hc] at h
    cases h
  · rw [if_neg hc] at h
    exact ⟨hc, h⟩

/-- `bytes[i]`, at an index that the program has checked. -/
def byte (bytes : List UInt8) (i : Nat) : UInt8 := bytes.getD i 0

theorem byte_append_left {bytes : List UInt8} {i : Nat} (more : List UInt8)
    (h : i < bytes.length) : byte (bytes ++ more) i = byte bytes i :=
  List.getD_append _ _ _ _ h

theorem byte_set {bytes : List UInt8} {i j : Nat} (v : UInt8) (h : i < bytes.length) :
    byte (bytes.set i v) j = if j = i then v else byte bytes j := by
  simp only [byte]
  by_cases hj : i = j
  · subst hj
    simp [h]
  · simp [hj, Ne.symm hj]

theorem byte_take {bytes : List UInt8} {i n : Nat} (h : i < n) :
    byte (bytes.take n) i = byte bytes i := by
  simp only [byte, List.getD_eq_getElem?_getD, List.getElem?_take, if_pos h]

/-- What all 256 bytes have, every byte has. -/
theorem every_byte {p : UInt8 → Prop} (h : ∀ n : Fin 256, p (UInt8.ofFin n)) (b : UInt8) : p b :=
  UInt8.ofFin_toFin b ▸ h b.toFin

/-- The twelve low bits of two bytes, big endian. -/
def be12 (a b : UInt8) : Nat := ((a &&& 0x0f).toNat <<< 8) ||| b.toNat

/-- The thirteen low bits of two bytes, big endian. -/
def be13 (a b : UInt8) : Nat := ((a &&& 0x1f).toNat <<< 8) ||| b.toNat

/-- Two bytes, big endian. -/
def be16 (a b : UInt8) : Nat := (a.toNat <<< 8) ||| b.toNat

end Words
