-- The stores of a slot, one after the other, with readers that look at any time
-- between them. The memory is a function of the stores alone, and a slot whose
-- memory shows no key gives none until a store brings one.
import TvStack.SharedSlot

open Machines Words List

namespace maleicacid.cas

variable {ι : Type} {s : SlotState ι}

/-- The memory after stores, one after the other. -/
def memory_after (m : SharedKeyState) (values : List (Option Secret16)) : SharedKeyState :=
  values.foldl (fun m value => (m.store value).1) m

/-- The memory that the slot comes to when its writer finishes. -/
def settles (s : SlotState ι) : SharedKeyState :=
  match s.writer with
  | .Idle => s.memory
  | .Loading value => (s.memory.store value).1
  | .Writing _ _ pending => pending.foldl SharedKeyState.write s.memory

/-- A step of the writer is on its way to the memory that it settles at. -/
theorem settles_write (s : SlotState ι) : settles s.write.1 = settles s := by
  cases hwriter : s.writer with
  | Idle => simp only [SlotState.write, hwriter]
  | Loading value => simp only [SlotState.write, settles, hwriter, SharedKeyState.store]
  | Writing value result pending =>
    cases pending with
    | nil => simp only [SlotState.write, hwriter]
    | cons next rest =>
      rw [SlotState.write_cons hwriter]
      split
      · rename_i hrest
        simp only [settles, hwriter, hrest, foldl_cons, foldl_nil]
      · simp only [settles, hwriter, foldl_cons]

variable [DecidableEq ι]

/-- The stores that begin in a run: those that are asked for while the writer is idle. -/
def begun (s : SlotState ι) : List (SlotAction ι) → List (Option Secret16)
  | [] => []
  | action :: actions =>
    (match action, s.writer with
    | .store value, .Idle => [value]
    | _, _ => []) ++ begun (s.step action).1 actions

theorem settles_step (s : SlotState ι) (action : SlotAction ι) :
    settles (s.step action).1 = memory_after (settles s) (begun s [action]) := by
  cases action with
  | store value =>
    cases hwriter : s.writer <;>
      simp [SlotState.step, settles, begun, memory_after, hwriter]
  | write => exact settles_write s
  | snapshot i =>
    simp only [SlotState.step]
    split <;> rfl
  | load i => rfl

theorem begun_cons (s : SlotState ι) (action : SlotAction ι) (actions : List (SlotAction ι)) :
    begun s (action :: actions) = begun s [action] ++ begun (s.step action).1 actions := by
  simp [begun]

/-- The memory is a function of the stores. -/
theorem settles_run (s : SlotState ι) (actions : List (SlotAction ι)) :
    settles (run SlotState.step s actions).1 = memory_after (settles s) (begun s actions) := by
  induction actions generalizing s with
  | nil => rfl
  | cons action actions ih =>
    rw [begun_cons, memory_after, foldl_append]
    exact (ih (s.step action).1).trans (congrArg (memory_after · _) (settles_step s action))

/-! ## A slot without a key -/

/-- No store under way brings a key. -/
def Writer.BringsNone : Writer → Prop
  | .Idle => True
  | .Loading value | .Writing value _ _ => value = none

/-- The latest store was a null store, or the sequence is at its end, and no key is on its way. -/
def Keyless (s : SlotState ι) : Prop :=
  (s.latest = none ∨ s.memory.sequence = U64_MAX) ∧ s.writer.BringsNone

theorem Keyless.write (hfits : SlotFits s) (h : Keyless s) : Keyless s.write.1 := by
  obtain ⟨hnone, hwriter⟩ := h
  have hmax (hend : s.memory.sequence = U64_MAX) : s.write.1.memory.sequence = U64_MAX :=
    (exhausted_stays hfits hend [.write]).2
  cases hw : s.writer with
  | Idle =>
    simp only [SlotState.write, hw] at hmax ⊢
    exact ⟨hnone.imp_right hmax, hwriter⟩
  | Loading value =>
    simp only [hw] at hwriter
    simp only [SlotState.write, hw] at hmax ⊢
    exact ⟨hnone.imp_right hmax, hwriter⟩
  | Writing value result pending =>
    simp only [hw] at hwriter
    cases pending with
    | nil =>
      simp only [SlotState.write, hw] at hmax ⊢
      exact ⟨hnone.imp_right hmax, by rw [hw]; exact hwriter⟩
    | cons next rest =>
      rw [SlotState.write_cons hw] at hmax ⊢
      split at hmax
      · rename_i hrest
        rw [if_pos hrest]
        refine ⟨?_, trivial⟩
        cases result with
        | true =>
          left
          change (s.completed ++ [value]).getLast?.join = none
          rw [getLast?_concat, hwriter]
          rfl
        | false => exact hnone.imp_right hmax
      · rename_i hrest
        rw [if_neg hrest]
        exact ⟨hnone.imp_right hmax, hwriter⟩

theorem Keyless.step (hfits : SlotFits s) (h : Keyless s) {action : SlotAction ι}
    (hbegun : ∀ value ∈ begun s [action], value = none) : Keyless (s.step action).1 := by
  cases action with
  | store value =>
    simp only [SlotState.step]
    split
    · rename_i hidle
      exact ⟨h.1, hbegun value (by simp [begun, hidle])⟩
    · exact h
  | write => exact h.write hfits
  | snapshot i =>
    simp only [SlotState.step]
    split <;> exact h
  | load i => exact h

/-- A slot without a key, and with null stores alone, gives no key to any reader. -/
theorem keyless_gives_none (hfits : SlotFits s) (h : Keyless s) (actions : List (SlotAction ι))
    (hbegun : ∀ value ∈ begun s actions, value = none) (i : ι) (value : List UInt8) :
    some (.snapshot i .Ok value) ∉ (run SlotState.step s actions).2 := by
  induction actions generalizing s with
  | nil => exact not_mem_nil
  | cons action actions ih =>
    rw [begun_cons] at hbegun
    intro hmem
    rcases mem_cons.mp hmem with hnow | hlater
    · obtain ⟨hquiet, -, -⟩ := (load_fits (hfits.readers i)).2 _ _ (step_answer hnow.symm)
      obtain ⟨key, hkey, -⟩ := snapshot_truthful hfits hnow.symm
      rcases h.1 with hnone | hmax
      · rw [hkey] at hnone
        contradiction
      · exact hquiet.2 hmax
    · exact ih (step_fits hfits action).1
        (h.step hfits fun v hv => hbegun v (mem_append_left _ hv))
        (fun v hv => hbegun v (mem_append_right _ hv)) hlater

/-- No reader gets a key from a slot that has made these stores and makes the others from now on,
at whatever moments the readers look. -/
def GivesNoKey (seen more : List (Option Secret16)) : Prop :=
  ∀ before later : List (SlotAction Nat), begun {} before = seen → (after before).writer = .Idle →
    begun (after before) later <+: more → ∀ i value,
      some (.snapshot i .Ok value) ∉ (run SlotState.step (after before) later).2

/-- Stores after which the flag is not set, and null stores behind them. -/
theorem gives_no_key {seen more : List (Option Secret16)} (h : (memory_after {} seen).valid = false)
    (hmore : ∀ value ∈ more, value = none) : GivesNoKey seen more := by
  intro before later hseen hidle hlater i value
  have hfits := after_fits before
  have hmemory : (after before).memory = memory_after {} seen := by
    have hsettles := settles_run ({} : SlotState Nat) before
    rw [hseen] at hsettles
    change settles (after before) = _ at hsettles
    simp only [settles, hidle] at hsettles
    exact hsettles
  refine keyless_gives_none hfits ⟨?_, by rw [hidle]; trivial⟩ later
    (fun v hv => hmore v (hlater.subset hv)) i value
  by_cases hmax : (after before).memory.sequence = U64_MAX
  · exact Or.inr hmax
  left
  have hwriter := hfits.writer
  unfold WriterFits at hwriter
  rw [hidle] at hwriter
  have hflag := (hwriter.resolve_right hmax).2.2.1
  rw [hmemory, h] at hflag
  exact Option.not_isSome_iff_eq_none.mp (by rw [← hflag]; nofun)

end maleicacid.cas
