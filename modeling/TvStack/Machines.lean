-- Machines that take one input at a time and answer each of them, and the runs
-- they make over a list of inputs.
import Mathlib.Data.List.Induction

namespace Machines

variable {σ ι ο : Type*}

/-- The state after a list of inputs, and the answer to each of them. -/
def run (step : σ → ι → σ × ο) : σ → List ι → σ × List ο
  | s, [] => (s, [])
  | s, i :: is => ((run step (step s i).1 is).1, (step s i).2 :: (run step (step s i).1 is).2)

variable {step : σ → ι → σ × ο}

@[simp] theorem run_nil (s : σ) : run step s [] = (s, []) := rfl

@[simp] theorem run_cons (s : σ) (i : ι) (is : List ι) :
    run step s (i :: is) =
      ((run step (step s i).1 is).1, (step s i).2 :: (run step (step s i).1 is).2) := rfl

theorem run_append (s : σ) (is js : List ι) :
    run step s (is ++ js) =
      ((run step (run step s is).1 js).1,
        (run step s is).2 ++ (run step (run step s is).1 js).2) := by
  induction is generalizing s with
  | nil => rfl
  | cons i is ih => simp [ih]

theorem run_snoc (s : σ) (is : List ι) (i : ι) :
    run step s (is ++ [i]) =
      ((step (run step s is).1 i).1, (run step s is).2 ++ [(step (run step s is).1 i).2]) := by
  simp [run_append]

/-- A run over translated inputs is a run of the translated machine. -/
theorem run_map {κ : Type*} (f : κ → ι) (s : σ) (ks : List κ) :
    run step s (ks.map f) = run (fun t k => step t (f k)) s ks := by
  induction ks generalizing s with
  | nil => rfl
  | cons k ks ih => simp [ih]

/-- What every step keeps, a run keeps. -/
theorem run_keeps {P : σ → Prop} (hstep : ∀ s i, P s → P (step s i).1) (s : σ) (is : List ι)
    (h : P s) : P (run step s is).1 := by
  induction is generalizing s with
  | nil => exact h
  | cons i is ih => exact ih _ (hstep s i h)

/-- A run whose steps all meet a condition keeps what every such step keeps. -/
theorem run_keeps_when {P : σ → Prop} {Meets : σ → ι → Prop}
    (hstep : ∀ s i, Meets s i → P s → P (step s i).1) {s : σ} {is : List ι} (h : P s)
    (hmeets : ∀ before i later, is = before ++ i :: later → Meets (run step s before).1 i) :
    P (run step s is).1 := by
  induction is using List.reverseRecOn with
  | nil => exact h
  | append_singleton is i ih =>
    rw [run_snoc]
    refine hstep _ i (hmeets is i [] rfl) (ih fun before j later heq => ?_)
    exact hmeets before j (later ++ [i]) (by rw [heq, List.append_assoc]; rfl)

/-- An invariant that also reads the inputs and the answers so far: it holds after a run when
it holds at the start, and each step takes it from a history to the history with that step. -/
theorem run_history {P : σ → List ι → List ο → Prop} (s : σ) (h0 : P s [] [])
    (hstep : ∀ t is os i, P t is os → P (step t i).1 (is ++ [i]) (os ++ [(step t i).2]))
    (is : List ι) : P (run step s is).1 is (run step s is).2 := by
  induction is using List.reverseRecOn with
  | nil => exact h0
  | append_singleton is i ih =>
    rw [run_snoc]
    exact hstep _ _ _ _ ih

end Machines
