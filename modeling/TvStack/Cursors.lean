-- Loops that walk over the entries of a buffer with a cursor. Each entry has a head
-- and a length of its own, and a limit may cut the last one. A walk whose accesses
-- are in range gives what the cut of its window gives.
import TvStack.Checked
import TvStack.Items

open Checked Items List

namespace Cursors

variable {α β σ ρ : Type}

/-- The elements from `start` up to `stop`. -/
def window (l : List α) (start stop : Nat) : List α := (l.take stop).drop start

/-- `while cursor + head <= limit`, with the length of the entry at a cursor, what an entry between
two cursors does, and what is done with an entry that the limit cuts or where none is left. -/
structure Walk (σ ρ : Type) where
  head : Nat
  length : Nat → Run Nat
  visit : σ → Nat → Nat → Run (σ ⊕ ρ)
  (broken finish : σ → Nat → Run ρ)

def Walk.turn (w : Walk σ ρ) (limit : Nat) : σ × Nat → Run (σ × Nat ⊕ ρ)
  | (s, cursor) =>
    if cursor + w.head ≤ limit then do
      let stop := cursor + w.head + (← w.length cursor)
      if stop ≤ limit then
        match ← w.visit s cursor stop with
        | .inl s => return .inl (s, stop)
        | .inr result => return .inr result
      else return .inr (← w.broken s cursor)
    else return .inr (← w.finish s cursor)

def Walk.run (w : Walk σ ρ) (limit start : Nat) (s : σ) : Run ρ :=
  loop (w.turn limit) (limit + 1) (s, start)

/-- A walk where no item leaves is a fold. -/
theorem follow_inl (step : σ → β → σ) (done : σ → ρ) (s : σ) (items : List β) :
    follow (fun s b => .inl (step s b)) done s items = done (items.foldl step s) := by
  induction items generalizing s with
  | nil => rfl
  | cons b rest ih => exact ih (step s b)

/-- A walk that leaves at the first wanted item. -/
theorem follow_find (p : β → Prop) [DecidablePred p] (f : β → ρ) (items : List β) :
    follow (fun _ b => if p b then .inr (some (f b)) else .inl ()) (fun _ => none) () items =
      (items.find? p).map f := by
  induction items with
  | nil => rfl
  | cons b rest ih =>
    by_cases hb : p b
    · simp [follow, hb]
    · simp [follow, hb, ih]

/-! ## Windows -/

variable {l : List α} {c n m limit : Nat}

theorem length_window (h : limit ≤ l.length) : (window l c limit).length = limit - c := by
  rw [window, length_drop, length_take, Nat.min_eq_left h]

theorem take_window (h : c + n ≤ limit) : (window l c limit).take n = window l c (c + n) := by
  rw [window, window, take_drop, take_take, Nat.min_eq_left h]

theorem drop_window : (window l c limit).drop n = window l (c + n) limit := by
  rw [window, window, drop_drop]

/-! ## The walk and the cut -/

/-- The accesses of a walk over `l` are in range wherever the invariant holds: the walk reads
lengths, does steps and ends as the functions on the windows say. -/
structure Walk.Reads (w : Walk σ ρ) (l : List α) (limit : Nat) (inv : σ → Nat → Prop)
    (len : List α → Nat) (make : List α → List α → β) (step : σ → β → σ ⊕ ρ)
    (done : σ → List α → ρ) : Prop where
  positive : 0 < w.head
  limit_le : limit ≤ l.length
  length : ∀ c, c + w.head ≤ limit → w.length c = .ok (len (window l c (c + w.head)))
  visit : ∀ s c stop, inv s c → stop = c + w.head + len (window l c (c + w.head)) → stop ≤ limit →
    w.visit s c stop = .ok (step s (make (window l c (c + w.head)) (window l (c + w.head) stop)))
  keeps : ∀ s c stop, inv s c → stop = c + w.head + len (window l c (c + w.head)) → stop ≤ limit →
    ∀ next, step s (make (window l c (c + w.head)) (window l (c + w.head) stop)) = .inl next →
      inv next stop
  broken : ∀ s c, inv s c → c + w.head ≤ limit →
    limit < c + w.head + len (window l c (c + w.head)) →
    w.broken s c = .ok (done s (window l c limit))
  finish : ∀ s c, inv s c → limit < c + w.head → w.finish s c = .ok (done s (window l c limit))

variable {w : Walk σ ρ} {inv : σ → Nat → Prop} {len : List α → Nat} {make : List α → List α → β}
  {step : σ → β → σ ⊕ ρ} {done : σ → List α → ρ}

/-- Where the next item of a window ends, the next window starts. -/
theorem sized_window {size : Nat} {b : β} {rest : List α} (hsize : 0 < size)
    (h : sized size len make (window l c limit) = some (b, rest)) (hlimit : limit ≤ l.length) :
    c + size + len (window l c (c + size)) ≤ limit ∧
      b = make (window l c (c + size))
        (window l (c + size) (c + size + len (window l c (c + size)))) ∧
      rest = window l (c + size + len (window l c (c + size))) limit := by
  unfold sized at h
  split at h
  · contradiction
  rename_i hlong
  rw [length_window hlimit] at hlong
  have hhead : c + size ≤ limit := by omega
  rw [take_window hhead, drop_window, drop_window] at h
  split at h
  · contradiction
  rename_i hbody
  rw [length_window hlimit] at hbody
  have hfits : c + size + len (window l c (c + size)) ≤ limit := by omega
  rw [take_window hfits] at h
  cases h
  exact ⟨hfits, rfl, rfl⟩

/-- One turn takes one item of the window, or ends where the cut does. -/
theorem Walk.Reads.turn (h : w.Reads l limit inv len make step done) {s : σ} {c : Nat}
    (hinv : inv s c) :
    w.turn limit (s, c) =
      .ok (match sized w.head len make (window l c limit) with
        | none => .inr (done s (window l c limit))
        | some (b, _) =>
          match step s b with
          | .inl s => .inl (s, c + w.head + len (window l c (c + w.head)))
          | .inr result => .inr result) := by
  have hpositive := h.positive
  unfold Walk.turn
  cases hitem : sized w.head len make (window l c limit) with
  | none =>
    unfold sized at hitem
    rw [length_window h.limit_le] at hitem
    by_cases hhead : c + w.head ≤ limit
    · rw [if_neg (by omega), take_window hhead, drop_window, length_window h.limit_le] at hitem
      have hcut : limit < c + w.head + len (window l c (c + w.head)) := by
        split at hitem
        · omega
        · contradiction
      simp only [if_pos hhead, h.length c hhead, bind, Except.bind, Nat.not_le.mpr hcut,
        h.broken s c hinv hhead hcut]
      rfl
    · simp only [if_neg hhead, h.finish s c hinv (by omega)]
      rfl
  | some next =>
    obtain ⟨b, rest⟩ := next
    obtain ⟨hfits, hb, -⟩ := sized_window hpositive hitem h.limit_le
    have hhead : c + w.head ≤ limit := by omega
    have hvisit := h.visit s c _ hinv rfl hfits
    rw [← hb] at hvisit
    simp only [if_pos hhead, h.length c hhead, bind, Except.bind, hfits, hvisit]
    cases step s b <;> rfl

/-- The rule of the walks. -/
theorem Walk.Reads.run (h : w.Reads l limit inv len make step done) {s : σ} {start : Nat}
    (hinv : inv s start) :
    w.run limit start s =
      .ok (follow step (fun s => done s (cut (sized w.head len make) (window l start limit)).2) s
        (cut (sized w.head len make) (window l start limit)).1) := by
  have hall : ∀ fuel s c, inv s c → limit - c < fuel → loop (w.turn limit) fuel (s, c) =
      .ok (follow step (fun s => done s (cut (sized w.head len make) (window l c limit)).2) s
        (cut (sized w.head len make) (window l c limit)).1) := by
    intro fuel
    induction fuel with
    | zero => exact fun s c _ hfuel => absurd hfuel (Nat.not_lt_zero _)
    | succ fuel ih =>
      intro s c hinv hfuel
      unfold loop
      rw [h.turn hinv]
      cases hitem : sized w.head len make (window l c limit) with
      | none => simp only [cut_none hitem, follow]
      | some next =>
        obtain ⟨b, rest⟩ := next
        have hpositive := h.positive
        obtain ⟨hfits, hb, hrest⟩ := sized_window hpositive hitem h.limit_le
        simp only [cut_some (sized_shorter hpositive) hitem, follow]
        cases hstep : step s b with
        | inl next =>
          rw [hrest]
          exact ih next _ (h.keeps s c _ hinv rfl hfits next (hb ▸ hstep)) (by omega)
        | inr result => rfl
  exact hall (limit + 1) s start hinv (by omega)

/-! ## Entries of one size -/

/-- `while cursor + size <= limit`, over entries that all have this size. -/
def fixed_walk (size : Nat) (visit : σ → Nat → Run σ) : Walk σ σ where
  head := size
  length _ := pure 0
  visit s cursor _ := do return .inl (← visit s cursor)
  broken s _ := pure s
  finish s _ := pure s

theorem fixed_walk_run {size : Nat} {visit : σ → Nat → Run σ} (make : List α → List α → β)
    (step : σ → β → σ) (hsize : 0 < size) (hlimit : limit ≤ l.length)
    (hvisit : ∀ s c, c + size ≤ limit → visit s c = .ok (step s (make (window l c (c + size)) [])))
    (start : Nat) (s : σ) :
    (fixed_walk size visit).run limit start s =
      .ok ((cut (sized size (fun _ => 0) make) (window l start limit)).1.foldl step s) := by
  have hreads : (fixed_walk size visit).Reads l limit (fun _ _ => True) (fun _ => 0) make
      (fun s b => .inl (step s b)) (fun s _ => s) := by
    refine ⟨hsize, hlimit, fun _ _ => rfl, fun s c stop _ hstop hle => ?_,
      fun _ _ _ _ _ _ _ _ => trivial, fun _ _ _ _ _ => rfl, fun _ _ _ _ => rfl⟩
    have hfixed : stop = c + size := hstop
    subst hfixed
    have hnil : window l (c + size) (c + size) = [] := by
      rw [← length_eq_zero_iff, length_window (by omega)]
      omega
    have hvisited : visit s c = .ok (step s (make (window l c (c + size))
        (window l (c + size) (c + size)))) := hnil ▸ hvisit s c hle
    simp only [fixed_walk, hvisited]
    rfl
  exact (hreads.run trivial).trans (congrArg Except.ok (follow_inl _ _ _ _))

end Cursors
