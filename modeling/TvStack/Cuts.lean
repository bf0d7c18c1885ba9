-- Streams that come in pieces. A reader of a piece that also sees the last few
-- elements before it reads a window of the stream, and an answer that more
-- elements do not change is the answer for the whole stream.
import Mathlib.Data.List.TakeDrop

namespace Cuts

variable {α β : Type}

/-- The last elements of a list, `n` of them if there are as many. -/
def tail (n : Nat) (l : List α) : List α := l.drop (l.length - n)

theorem tail_append (n : Nat) (l piece : List α) :
    tail n l ++ piece = (l ++ piece).drop (l.length - n) := by
  rw [tail, List.drop_append_of_le_length (Nat.sub_le _ _)]

/-- The tail of what was carried and came next is that of all that came. -/
theorem tail_tail_append (n : Nat) (l piece : List α) :
    tail n (tail n l ++ piece) = tail n (l ++ piece) := by
  rw [tail_append]
  unfold tail
  rw [List.drop_drop, List.length_drop, List.length_append]
  congr 1
  omega

/-- An answer that is given stays when more comes. -/
def Stable (read : List α → Option β) : Prop :=
  ∀ ⦃l b⦄ more, read l = some b → read (l ++ more) = some b

/-- What a reader sees of each piece, with the tail of length `n` of all before it. -/
def windows (n : Nat) (before : List α) : List (List α) → List (List α)
  | [] => []
  | piece :: rest => (tail n before ++ piece) :: windows n (before ++ piece) rest

theorem mem_windows {n : Nat} {before w : List α} {pieces : List (List α)} :
    w ∈ windows n before pieces ↔ ∃ earlier piece later, pieces = earlier ++ piece :: later ∧
      w = tail n (before ++ earlier.flatten) ++ piece := by
  induction pieces generalizing before with
  | nil => simp [windows]
  | cons piece rest ih =>
    rw [windows, List.mem_cons, ih]
    constructor
    · rintro (rfl | ⟨earlier, next, later, rfl, rfl⟩)
      · exact ⟨[], piece, rest, rfl, by simp⟩
      · exact ⟨piece :: earlier, next, later, rfl, by simp⟩
    · rintro ⟨earlier, next, later, heq, rfl⟩
      cases earlier with
      | nil =>
        cases heq
        exact .inl (by simp)
      | cons first more =>
        cases heq
        exact .inr ⟨more, next, later, rfl, by simp⟩

end Cuts
