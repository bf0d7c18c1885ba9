-- Programs that stop where an access is out of range. An index or a slice outside
-- of its list, a subtraction below zero and a loop that does not end are faults;
-- a program that returns has none of them.
import Mathlib.Data.List.Basic

open List

namespace Checked

inductive Fault
  | index
  | slice
  | underflow
  | endless
  deriving DecidableEq

universe u

/-- What a program gives, or the fault where it stops. -/
abbrev Run : Type u → Type u := Except Fault

variable {α β σ ρ : Type u}

/-! ## The accesses -/

/-- `l[i]` -/
def index (l : List α) (i : Nat) : Run α :=
  match l[i]? with
  | some a => .ok a
  | none => .error .index

/-- `l[start..stop]` -/
def range (l : List α) (start stop : Nat) : Run (List α) :=
  if start ≤ stop ∧ stop ≤ l.length then .ok ((l.take stop).drop start) else .error .slice

/-- `a - b` -/
def sub (a b : Nat) : Run Nat := if b ≤ a then .ok (a - b) else .error .underflow

/-- `l.chunks_exact(n)` -/
def chunks_exact (l : List α) (n : Nat) : List (List α) :=
  (List.range (l.length / n)).map fun i => (l.drop (i * n)).take n

/-- A loop of at most so many turns. A turn goes on with the next loop variables or leaves. -/
def loop (turn : σ → Run (σ ⊕ ρ)) : Nat → σ → Run ρ
  | 0, _ => .error .endless
  | n + 1, s =>
    match turn s with
    | .error fault => .error fault
    | .ok (.inl next) => loop turn n next
    | .ok (.inr result) => .ok result

/-! ## Programs that return -/

/-- The program returns, and its result is as wanted. -/
def Returns (x : Run α) (Q : α → Prop) : Prop := ∃ a, x = .ok a ∧ Q a

/-- The program returns, whatever its result. -/
abbrev Ends (x : Run α) : Prop := Returns x fun _ => True

variable {x : Run α} {P Q : α → Prop}

theorem Returns.ok {a : α} (h : Q a) : Returns (Pure.pure a) Q := ⟨a, rfl, h⟩

theorem Returns.pure {a : α} : Ends (Pure.pure a) := .ok trivial

theorem Returns.mono (h : Returns x P) (hPQ : ∀ a, P a → Q a) : Returns x Q := by
  obtain ⟨a, ha, hP⟩ := h
  exact ⟨a, ha, hPQ a hP⟩

theorem Returns.bind {f : α → Run β} {R : β → Prop} (h : Returns x P)
    (hf : ∀ a, P a → Returns (f a) R) : Returns (x >>= f) R := by
  obtain ⟨a, rfl, hP⟩ := h
  exact hf a hP

theorem Returns.ite {c : Prop} [Decidable c] {y : Run α} (hx : c → Returns x Q)
    (hy : ¬ c → Returns y Q) : Returns (if c then x else y) Q := by
  split_ifs with hc
  · exact hx hc
  · exact hy hc

/-- A guard in front of a program leaves early with its result. -/
theorem Returns.leave {c : Prop} [Decidable c] {a : α} (ha : Q a) (hx : ¬ c → Returns x Q) :
    Returns (if c then Pure.pure a else x) Q :=
  .ite (fun _ => .ok ha) hx

theorem Returns.unless {c : Prop} [Decidable c] {a : α} (hx : ¬ c → Ends x) :
    Ends (if c then Pure.pure a else x) := .leave trivial hx

/-- A program whose result is only built from that of another. -/
theorem Returns.then_pure {f : α → β} (h : Returns x P) : Ends (x >>= fun a => Pure.pure (f a)) :=
  h.bind fun _ _ => .pure

theorem index_returns {l : List α} {i : Nat} (h : i < l.length) :
    Returns (index l i) fun a => l[i]? = some a := by
  refine ⟨l[i], ?_, getElem?_eq_getElem h⟩
  simp only [index, getElem?_eq_getElem h]

theorem range_returns {l : List α} {start stop : Nat} (h : start ≤ stop) (hstop : stop ≤ l.length) :
    Returns (range l start stop) fun part =>
      part = (l.take stop).drop start ∧ part.length = stop - start := by
  refine ⟨(l.take stop).drop start, if_pos ⟨h, hstop⟩, rfl, ?_⟩
  rw [length_drop, length_take, Nat.min_eq_left hstop]

section

variable {l : List α} {f : α → Run β} {g : List α → Run β} {R : β → Prop}

theorem index_then {i : Nat} (h : i < l.length) (hf : ∀ a, Returns (f a) R) :
    Returns (index l i >>= f) R :=
  (index_returns h).bind fun a _ => hf a

theorem range_then {start stop : Nat} (h : start ≤ stop ∧ stop ≤ l.length)
    (hg : ∀ part, Returns (g part) R) : Returns (range l start stop >>= g) R :=
  (range_returns h.1 h.2).bind fun part _ => hg part

end

theorem sub_returns {a b : Nat} (h : b ≤ a) : Returns (sub a b) fun c => c = a - b :=
  ⟨a - b, if_pos h, rfl⟩

/-- A turn that goes on keeps the invariant and lowers the measure; one that leaves gives a result
as wanted. -/
def Lowers (I : σ → Prop) (size : σ → Nat) (R : ρ → Prop) (s : σ) : σ ⊕ ρ → Prop
  | .inl s' => I s' ∧ size s' < size s
  | .inr result => R result

theorem loop_returns {turn : σ → Run (σ ⊕ ρ)} (I : σ → Prop) (size : σ → Nat)
    {R : ρ → Prop} (hturn : ∀ s, I s → Returns (turn s) (Lowers I size R s)) {n : Nat} {s : σ}
    (hs : I s) (hn : size s < n) : Returns (loop turn n s) R := by
  induction n generalizing s with
  | zero => exact absurd hn (Nat.not_lt_zero _)
  | succ n ih =>
    obtain ⟨next, hnext, hkeeps⟩ := hturn s hs
    cases next with
    | inl s' =>
      obtain ⟨hs', hlower⟩ := hkeeps
      obtain ⟨result, hresult, hR⟩ := ih hs' (Nat.lt_of_lt_of_le hlower (Nat.le_of_lt_succ hn))
      exact ⟨result, by simp only [loop, hnext, hresult], hR⟩
    | inr result => exact ⟨result, by simp only [loop, hnext], hkeeps⟩

theorem foldlM_returns {step : σ → α → Run σ} (I : σ → Prop) {l : List α}
    (hstep : ∀ s, I s → ∀ a ∈ l, Returns (step s a) I) {s : σ} (hs : I s) :
    Returns (l.foldlM step s) I := by
  induction l generalizing s with
  | nil => exact .ok hs
  | cons a l ih =>
    refine (hstep s hs a mem_cons_self).bind fun s' hs' => ?_
    exact ih (fun s hs b hb => hstep s hs b (mem_cons_of_mem a hb)) hs'

theorem mapM_returns {f : α → Run β} {l : List α} (h : ∀ a ∈ l, Ends (f a)) : Ends (l.mapM f) := by
  induction l with
  | nil => exact .pure
  | cons a l ih =>
    rw [mapM_cons]
    refine (h a mem_cons_self).bind fun b _ => ?_
    refine (ih fun c hc => h c (mem_cons_of_mem a hc)).bind fun bs _ => ?_
    exact .pure

theorem length_of_mem_chunks_exact {l part : List α} {n : Nat} (h : part ∈ chunks_exact l n) :
    part.length = n := by
  obtain ⟨i, hi, rfl⟩ := mem_map.mp h
  have hlt : i + 1 ≤ l.length / n := mem_range.mp hi
  have hmul : (i + 1) * n ≤ l.length :=
    Nat.le_trans (Nat.mul_le_mul_right n hlt) (Nat.div_mul_le_self _ _)
  rw [length_take, length_drop]
  rw [Nat.succ_mul] at hmul
  omega

end Checked
