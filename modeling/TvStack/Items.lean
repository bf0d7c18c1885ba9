-- Lists that are cut into items, one after the other, as loops over a buffer
-- with a cursor do. An item is taken from the front and leaves a rest.
import Mathlib.Data.List.Basic

namespace Items

variable {α β σ ρ : Type*}

/-- At most `n` items, and what is left. -/
def cutUpTo (item : List α → Option (β × List α)) : Nat → List α → List β × List α
  | 0, l => ([], l)
  | n + 1, l =>
    match item l with
    | none => ([], l)
    | some (b, rest) => (b :: (cutUpTo item n rest).1, (cutUpTo item n rest).2)

/-- The items of a list, and what is left where no item follows. Every item takes at least one
element, so there are no more items than elements. -/
def cut (item : List α → Option (β × List α)) (l : List α) : List β × List α :=
  cutUpTo item l.length l

/-- An item of `size` elements with a rest of its own of `len` elements. -/
def sized (size : Nat) (len : List α → Nat) (make : List α → List α → β) (l : List α) :
    Option (β × List α) :=
  if l.length < size then none
  else if (l.drop size).length < len (l.take size) then none
  else some (make (l.take size) ((l.drop size).take (len (l.take size))),
    (l.drop size).drop (len (l.take size)))

/-- The items one after the other, until one of them leaves. -/
def follow (step : σ → β → σ ⊕ ρ) (done : σ → ρ) : σ → List β → ρ
  | s, [] => done s
  | s, b :: rest =>
    match step s b with
    | .inl s => follow step done s rest
    | .inr result => result

/-! ## The cut of a list -/

variable {item : List α → Option (β × List α)}

/-- More turns than elements change nothing. -/
theorem cutUpTo_eq_cut (hshorter : ∀ {l b rest}, item l = some (b, rest) → rest.length < l.length)
    {n : Nat} {l : List α} (h : l.length ≤ n) : cutUpTo item n l = cut item l := by
  have hall : ∀ n m (l : List α), l.length ≤ n → l.length ≤ m →
      cutUpTo item n l = cutUpTo item m l := by
    intro n
    induction n with
    | zero =>
      intro m l hn _
      have hnone : item l = none := by
        cases hitem : item l with
        | none => rfl
        | some next =>
          have hlt := hshorter hitem
          omega
      cases m with
      | zero => rfl
      | succ m => simp only [cutUpTo, hnone]
    | succ n ih =>
      intro m l hn hm
      cases hitem : item l with
      | none => cases m <;> simp only [cutUpTo, hitem]
      | some next =>
        obtain ⟨b, rest⟩ := next
        have hlt := hshorter hitem
        cases m with
        | zero => omega
        | succ m => simp only [cutUpTo, hitem, ih m rest (by omega) (by omega)]
  exact hall n l.length l h (Nat.le_refl _)

theorem cut_none {l : List α} (h : item l = none) : cut item l = ([], l) := by
  unfold cut
  cases l.length with
  | zero => rfl
  | succ n => simp only [cutUpTo, h]

theorem cut_some (hshorter : ∀ {l b rest}, item l = some (b, rest) → rest.length < l.length)
    {l rest : List α} {b : β} (h : item l = some (b, rest)) :
    cut item l = (b :: (cut item rest).1, (cut item rest).2) := by
  have hlt := hshorter h
  rw [← cutUpTo_eq_cut hshorter (show rest.length ≤ l.length - 1 by omega)]
  obtain ⟨n, hn⟩ : ∃ n, l.length = n + 1 := ⟨l.length - 1, by omega⟩
  simp only [cut, hn, cutUpTo, h, Nat.add_sub_cancel]

theorem sized_shorter {size : Nat} {len : List α → Nat} {make : List α → List α → β}
    (hsize : 0 < size) {l rest : List α} {b : β} (h : sized size len make l = some (b, rest)) :
    rest.length < l.length := by
  unfold sized at h
  split at h
  · contradiction
  split at h
  · contradiction
  cases h
  rw [List.length_drop, List.length_drop]
  omega

end Items
