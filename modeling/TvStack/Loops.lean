-- Loops that a measure ends. A turn of the loop gives the next value of the
-- loop variables, or leaves the loop with the last one. The loop runs as many
-- turns as the measure allows, so it computes, and where each turn lowers the
-- measure it is the loop of the program: the bound never cuts it short.
import Mathlib.Data.List.Basic

namespace Loops

variable {α β : Type*} {turn : α → ForInStep α} {size : α → Nat}

/-- At most `n` turns of the loop. -/
def turns (turn : α → ForInStep α) : Nat → α → α
  | 0, a => a
  | n + 1, a =>
    match turn a with
    | .done b => b
    | .yield b => turns turn n b

/-- The loop with body `turn`, from the loop variables `a`. -/
def loop (turn : α → ForInStep α) (size : α → Nat) (a : α) : α := turns turn (size a + 1) a

/-- Each turn that goes on lowers the measure. -/
def Lowers (turn : α → ForInStep α) (size : α → Nat) : Prop :=
  ∀ a b, turn a = .yield b → size b < size a

section

variable (h : Lowers turn size)
include h

theorem turns_of_size_lt (n m : Nat) (a : α) (hn : size a < n) (hm : size a < m) :
    turns turn n a = turns turn m a := by
  induction n generalizing m a with
  | zero => omega
  | succ n ih =>
    cases m with
    | zero => omega
    | succ m =>
      simp only [turns]
      cases ht : turn a with
      | done b => rfl
      | yield b =>
        have hb := h a b ht
        exact ih m b (by omega) (by omega)

/-- One turn of the loop, then the rest of it. -/
theorem loop_eq (a : α) :
    loop turn size a =
      match turn a with
      | .done b => b
      | .yield b => loop turn size b := by
  unfold loop
  rw [turns]
  cases ht : turn a with
  | done b => rfl
  | yield b =>
    have hb := h a b ht
    exact turns_of_size_lt h _ _ b hb (by omega)

theorem loop_done {a b : α} (ht : turn a = .done b) : loop turn size a = b := by
  rw [loop_eq h, ht]

theorem loop_yield {a b : α} (ht : turn a = .yield b) : loop turn size a = loop turn size b := by
  rw [loop_eq h, ht]

/-- A relation between the loop variables and the end of the loop holds when each turn that
leaves the loop gives it, and each turn that goes on passes it back. -/
theorem loop_rel (P : α → α → Prop) (hd : ∀ a b, turn a = .done b → P a b)
    (hy : ∀ a b c, turn a = .yield b → P b c → P a c) (a : α) : P a (loop turn size a) := by
  induction hn : size a using Nat.strongRecOn generalizing a with
  | _ n ih =>
    rw [loop_eq h]
    cases ht : turn a with
    | done b => exact hd a b ht
    | yield b =>
      have hb := h a b ht
      exact hy a b _ ht (ih _ (by omega) b rfl)

end

/-! ## Loops over a list whose turns may not return -/

/-- A loop over a list returns when each turn returns, and goes where its turns go. `P` is what
the turns need; they keep it because they go along `R`. -/
theorem foldlM_returns {σ : Type*} {f : σ → α → Option σ} {P : σ → Prop} {R : σ → σ → Prop}
    (hrefl : ∀ s, R s s) (htrans : ∀ {s t u}, R s t → R t u → R s u)
    (hkeep : ∀ {s t}, P s → R s t → P t) {l : List α}
    (hturn : ∀ a ∈ l, ∀ s, P s → ∃ t, f s a = some t ∧ R s t) (s : σ) (h : P s) :
    ∃ t, l.foldlM f s = some t ∧ R s t := by
  induction l generalizing s with
  | nil => exact ⟨s, rfl, hrefl s⟩
  | cons a rest ih =>
    obtain ⟨t, hfirst, hst⟩ := hturn a List.mem_cons_self s h
    obtain ⟨u, hrest, htu⟩ :=
      ih (fun b hb => hturn b (List.mem_cons_of_mem _ hb)) t (hkeep h hst)
    refine ⟨u, ?_, htrans hst htu⟩
    rw [List.foldlM_cons, hfirst]
    exact hrest

end Loops
