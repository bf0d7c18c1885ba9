-- Steps on a state that falls into parts, one for each key. A step that reads and
-- changes the part of its own key alone never shows in the answers of another
-- key: they are what they would be if that step had not been made.
import TvStack.Machines

open Machines List

namespace Isolation

variable {σ κ ν α β ι ο : Type} [DecidableEq κ] {view : σ → κ → ν} {k : κ}
  {f : StateM σ α} {next : α → StateM σ β}

/-! ## Steps at one key -/

/-- The answer of the step and the part that it leaves at its key are functions of the part that
it finds there, and the other parts stay. -/
def Local (view : σ → κ → ν) (k : κ) (f : StateM σ α) : Prop :=
  ∃ g : StateM ν α, ∀ s, (f s).1 = (g (view s k)).1 ∧
    ∀ j, view (f s).2 j = if j = k then (g (view s k)).2 else view s j

theorem Local.same (h : Local view k f) {s t : σ} (hs : view s k = view t k) :
    (f s).1 = (f t).1 ∧ view (f s).2 k = view (f t).2 k := by
  obtain ⟨g, hg⟩ := h
  constructor
  · rw [(hg s).1, (hg t).1, hs]
  · rw [(hg s).2, (hg t).2, hs]

theorem Local.other (h : Local view k f) {j : κ} (hj : j ≠ k) (s : σ) :
    view (f s).2 j = view s j := by
  obtain ⟨g, hg⟩ := h
  rw [(hg s).2, if_neg hj]

theorem part_stays (view : σ → κ → ν) (k : κ) (s : σ) (j : κ) :
    view s j = if j = k then view s k else view s j := by
  split_ifs with hj
  · rw [hj]
  · rfl

theorem Local.pure (a : α) : Local view k (Pure.pure a : StateM σ α) :=
  ⟨Pure.pure a, fun s => ⟨rfl, part_stays view k s⟩⟩

/-- A change of the state that is a change of the part at the key. -/
theorem Local.modify {change : σ → σ} {u : ν → ν}
    (h : ∀ s j, view (change s) j = if j = k then u (view s k) else view s j) :
    Local view k (modify change : StateM σ Unit) :=
  ⟨Prod.mk () ∘ u, fun s => ⟨rfl, h s⟩⟩

theorem Local.bind (h : Local view k f) (hnext : ∀ a, Local view k (next a)) :
    Local view k (f >>= next) := by
  obtain ⟨g, hg⟩ := h
  choose next' hnext' using hnext
  refine ⟨g >>= next', fun s => ?_⟩
  obtain ⟨hanswer, hpart⟩ := hg s
  obtain ⟨hanswer', hpart'⟩ := hnext' (f s).1 (f s).2
  have hk : view (f s).2 k = (g (view s k)).2 := by rw [hpart, if_pos rfl]
  have hnext : next' (f s).1 (view (f s).2 k) = (g >>= next') (view s k) := by
    rw [hk, hanswer]
    rfl
  rw [hnext] at hanswer' hpart'
  refine ⟨hanswer', fun j => (hpart' j).trans ?_⟩
  split
  · rfl
  · rename_i hj
    rw [hpart, if_neg hj]

/-- The answer of the step, and the part that it leaves at the key, are the same in every state. -/
def Forgets (view : σ → κ → ν) (k : κ) (f : StateM σ α) : Prop :=
  ∀ s t, (f s).1 = (f t).1 ∧ view (f s).2 k = view (f t).2 k

theorem Forgets.bind (h : Forgets view k f) (hnext : ∀ a, Local view k (next a)) :
    Forgets view k (f >>= next) := by
  intro s t
  obtain ⟨hanswer, hpart⟩ := h s t
  obtain ⟨hanswer', hpart'⟩ := (hnext (f s).1).same hpart
  rw [hanswer] at hanswer' hpart'
  change (next (f s).1 (f s).2).1 = _ ∧ view (next (f s).1 (f s).2).2 k = _
  rw [hanswer]
  exact ⟨hanswer', hpart'⟩

theorem Local.foldlM {f : α → β → StateM σ α} (h : ∀ a b, Local view k (f a b)) (bs : List β)
    (a : α) : Local view k (bs.foldlM f a) := by
  induction bs generalizing a with
  | nil => exact .pure a
  | cons b bs ih => exact .bind (h a b) fun a' => ih a'

/-! ## What a step can answer -/

/-- In every state the answer of the step has the property. -/
def Answers (P : α → Prop) (f : StateM σ α) : Prop := ∀ s, P (f s).1

theorem Answers.bind {P : α → Prop} {Q : β → Prop} (h : Answers P f)
    (hnext : ∀ a, P a → Answers Q (next a)) : Answers Q (f >>= next) :=
  fun s => hnext (f s).1 (h s) (f s).2

/-- Whatever a step answers, the next one decides. -/
theorem Answers.after {Q : β → Prop} (hnext : ∀ a, Answers Q (next a)) : Answers Q (f >>= next) :=
  fun s => hnext (f s).1 (f s).2

theorem Answers.foldlM {P : α → Prop} {bs : List β} {f : α → β → StateM σ α}
    (h : ∀ a, ∀ b ∈ bs, P a → Answers P (f a b)) {a : α} (ha : P a) :
    Answers P (bs.foldlM f a) := by
  induction bs generalizing a with
  | nil => exact fun _ => ha
  | cons b bs ih =>
    refine .bind (h a b mem_cons_self ha) fun a' ha' => ?_
    exact ih (fun a c hc => h a c (mem_cons_of_mem b hc)) ha'

/-! ## What a step leaves -/

/-- The step leaves what the view shows of the state. -/
def Leaves (view : σ → ν) (f : StateM σ α) : Prop := ∀ s, view (f s).2 = view s

theorem Leaves.bind {view : σ → ν} (h : Leaves view f) (hnext : ∀ a, Leaves view (next a)) :
    Leaves view (f >>= next) :=
  fun s => (hnext (f s).1 (f s).2).trans (h s)

theorem Leaves.foldlM {view : σ → ν} {f : α → β → StateM σ α} (h : ∀ a b, Leaves view (f a b))
    (bs : List β) (a : α) : Leaves view (bs.foldlM f a) := by
  induction bs generalizing a with
  | nil => exact fun _ => rfl
  | cons b bs ih => exact .bind (h a b) ih

/-! ## Runs -/

/-- The machine that answers each input with a step. -/
def machine (step : ι → StateM σ ο) (s : σ) (i : ι) : σ × ο := ((step i s).2, (step i s).1)

/-- The answers of a run to the inputs at a key. -/
def answersAt (key : ι → κ) (step : ι → StateM σ ο) (k : κ) (s : σ) (is : List ι) : List ο :=
  ((is.zip (run (machine step) s is).2).filter (key ·.1 = k)).map Prod.snd

variable {key : ι → κ} {step : ι → StateM σ ο}

theorem answersAt_cons (s : σ) (i : ι) (is : List ι) :
    answersAt key step k s (i :: is) =
      if key i = k then (step i s).1 :: answersAt key step k (step i s).2 is
      else answersAt key step k (step i s).2 is := by
  unfold answersAt
  by_cases hi : key i = k <;> simp [hi, machine]

/-- The inputs at a key get the answers that they get alone. -/
theorem answersAt_eq_alone (hstep : ∀ i, Local view (key i) (step i)) {s t : σ}
    (hs : view s k = view t k) (is : List ι) :
    answersAt key step k s is = (run (machine step) t (is.filter (key · = k))).2 := by
  induction is generalizing s t with
  | nil => rfl
  | cons i is ih =>
    rw [answersAt_cons, filter_cons]
    by_cases hi : key i = k
    · obtain ⟨hanswer, hpart⟩ := (hi ▸ hstep i : Local view k (step i)).same hs
      rw [if_pos hi, if_pos (decide_eq_true hi)]
      exact congrArg₂ cons hanswer (ih hpart)
    have hpart : view (step i s).2 k = view t k := by
      rw [(hstep i).other (fun h => hi h.symm) s, hs]
    rw [if_neg hi, if_neg (by simpa using hi)]
    exact ih hpart

/-- Two runs with the same inputs at a key give the same answers there, whatever the other inputs
are. -/
theorem answersAt_congr (hstep : ∀ i, Local view (key i) (step i)) {s t : σ} {is js : List ι}
    (hs : view s k = view t k) (h : is.filter (key · = k) = js.filter (key · = k)) :
    answersAt key step k s is = answersAt key step k t js := by
  rw [answersAt_eq_alone hstep hs is, answersAt_eq_alone hstep rfl js, h]

/-- Every answer at a key is the answer of an input at the key. -/
theorem answersAt_answers {P : ο → Prop} (h : ∀ i, key i = k → Answers P (step i)) (s : σ)
    (is : List ι) : ∀ o ∈ answersAt key step k s is, P o := by
  induction is generalizing s with
  | nil => exact fun o ho => absurd ho not_mem_nil
  | cons i is ih =>
    intro o ho
    rw [answersAt_cons] at ho
    split at ho
    · rename_i hi
      rcases mem_cons.mp ho with rfl | ho
      · exact h i hi s
      · exact ih _ o ho
    · exact ih _ o ho

/-- What is read from the answers at a key is all that is read from a run, when nothing can be read
from the other answers. -/
theorem flatMap_answersAt {f : ο → List α} {is : List ι}
    (h : ∀ i ∈ is, key i ≠ k → Answers (fun o => f o = []) (step i)) (s : σ) :
    (run (machine step) s is).2.flatMap f = (answersAt key step k s is).flatMap f := by
  induction is generalizing s with
  | nil => rfl
  | cons i is ih =>
    have hrest := ih (fun j hj => h j (mem_cons_of_mem i hj)) (step i s).2
    rw [answersAt_cons]
    split
    · exact congrArg (f (step i s).1 ++ ·) hrest
    rename_i hi
    have hnothing : f (step i s).1 = [] := h i mem_cons_self hi s
    refine Eq.trans ?_ hrest
    exact congrArg (· ++ _) hnothing

end Isolation
