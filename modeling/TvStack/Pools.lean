-- Pools of live objects under fresh identities, as a program holds guards,
-- tokens or leases: an object is added, found, changed and removed by its
-- identity, and an identity is never used again.
import Mathlib.Algebra.Order.Ring.Int
import Mathlib.Data.List.Basic

open List

variable {α : Type*}

structure Pool (α : Type*) where
  items : List (Nat × α) := []
  next : Nat := 0
  fresh : ∀ x ∈ items, x.1 < next := by simp
  nodup : (items.map Prod.fst).Nodup := by simp

namespace Pool

variable {p : Pool α} {id : Nat} {a : α}

def values (p : Pool α) : List α := p.items.map Prod.snd

def size (p : Pool α) : Nat := p.items.length

def get (p : Pool α) (id : Nat) : Option α := (p.items.find? (·.1 == id)).map Prod.snd

/-- The object `a` under the next identity, which is `p.next`. -/
def add (p : Pool α) (a : α) : Pool α where
  items := p.items ++ [(p.next, a)]
  next := p.next + 1
  fresh := by
    intro x hx
    rcases mem_append.mp hx with hx | hx
    · exact Nat.lt_succ_of_lt (p.fresh x hx)
    · rw [mem_singleton.mp hx]
      exact Nat.lt_succ_self _
  nodup := by
    rw [map_append, nodup_append]
    refine ⟨p.nodup, by simp, ?_⟩
    rintro i hi j hj rfl
    obtain ⟨x, hx, rfl⟩ := mem_map.mp hi
    have hlt := p.fresh x hx
    simp only [map_cons, map_nil, mem_singleton] at hj
    omega

def remove (p : Pool α) (id : Nat) : Pool α where
  items := p.items.filter (·.1 != id)
  next := p.next
  fresh := fun x hx => p.fresh x (mem_of_mem_filter hx)
  nodup := p.nodup.sublist (filter_sublist.map _)

/-- The object under `id` becomes `a`. -/
def set (p : Pool α) (id : Nat) (a : α) : Pool α where
  items := p.items.map fun x => if x.1 = id then (x.1, a) else x
  next := p.next
  fresh := by
    intro x hx
    obtain ⟨y, hy, rfl⟩ := mem_map.mp hx
    have hlt := p.fresh y hy
    split <;> exact hlt
  nodup := by
    have hkeys : (p.items.map fun x => if x.1 = id then (x.1, a) else x).map Prod.fst =
        p.items.map Prod.fst := by
      rw [map_map]
      apply map_congr_left
      intro x _
      simp only [Function.comp]
      split <;> rfl
    rw [hkeys]
    exact p.nodup

@[simp] theorem size_add (p : Pool α) (a : α) : (p.add a).size = p.size + 1 := by
  simp [size, add]

@[simp] theorem size_set (p : Pool α) (id : Nat) (a : α) : (p.set id a).size = p.size := by
  simp [size, set]

@[simp] theorem values_add (p : Pool α) (a : α) : (p.add a).values = p.values ++ [a] := by
  simp [values, add]

theorem values_length (p : Pool α) : p.values.length = p.size := by
  simp [values, size]

theorem get_mem_items (h : p.get id = some a) : (id, a) ∈ p.items := by
  obtain ⟨x, hx, rfl⟩ := Option.map_eq_some_iff.mp h
  have hid : x.1 = id := by simpa using find?_some hx
  rw [← hid]
  exact mem_of_find?_eq_some hx

theorem get_mem (h : p.get id = some a) : a ∈ p.values :=
  mem_map.mpr ⟨(id, a), get_mem_items h, rfl⟩

theorem mem_remove (h : a ∈ (p.remove id).values) : a ∈ p.values := by
  obtain ⟨x, hx, rfl⟩ := mem_map.mp h
  exact mem_map.mpr ⟨x, mem_of_mem_filter hx, rfl⟩

theorem mem_set {b : α} (h : b ∈ (p.set id a).values) : b = a ∨ b ∈ p.values := by
  obtain ⟨x, hx, rfl⟩ := mem_map.mp h
  obtain ⟨y, hy, rfl⟩ := mem_map.mp hx
  split_ifs
  · exact .inl rfl
  · exact .inr (mem_map.mpr ⟨y, hy, rfl⟩)

/-- The object under an identity, and the others. -/
theorem perm_filter_ne {items : List (Nat × α)} (hnodup : (items.map Prod.fst).Nodup)
    (h : (id, a) ∈ items) : items.Perm ((id, a) :: items.filter (·.1 != id)) := by
  induction items with
  | nil => cases h
  | cons x rest ih =>
    rw [map_cons, nodup_cons] at hnodup
    rcases mem_cons.mp h with hx | hmem
    · -- the object is at the head, and no other one has its identity
      subst hx
      have hrest : rest.filter (·.1 != id) = rest := by
        apply filter_eq_self.mpr
        intro y hy
        have hne : y.1 ≠ id := fun heq => hnodup.1 (heq ▸ mem_map.mpr ⟨y, hy, rfl⟩)
        simpa using hne
      simp [hrest]
    · have hne : x.1 ≠ id := fun heq => hnodup.1 (heq ▸ mem_map.mpr ⟨(id, a), hmem, rfl⟩)
      have hkeep : (x :: rest).filter (·.1 != id) = x :: rest.filter (·.1 != id) := by simp [hne]
      rw [hkeep]
      exact ((ih hnodup.2 hmem).cons x).trans (List.Perm.swap _ _ _)

theorem perm_remove (h : p.get id = some a) : p.items.Perm ((id, a) :: (p.remove id).items) :=
  perm_filter_ne p.nodup (get_mem_items h)

theorem size_remove (h : p.get id = some a) : (p.remove id).size + 1 = p.size :=
  (perm_remove h).length_eq.symm

theorem size_remove_le (p : Pool α) (id : Nat) : (p.remove id).size ≤ p.size :=
  length_filter_le _ _

theorem size_pos (h : p.get id = some a) : 0 < p.size := by
  have hsize := size_remove h
  omega

theorem mem_size_pos (h : a ∈ p.values) : 0 < p.size := by
  rw [← values_length]
  exact length_pos_of_mem h

theorem not_mem_empty (h : p.size = 0) : a ∉ p.values := fun ha =>
  absurd (mem_size_pos ha) (by omega)

theorem all_add {P : α → Prop} (h : ∀ b ∈ p.values, P b) (ha : P a) :
    ∀ b ∈ (p.add a).values, P b := by
  rw [values_add, forall_mem_append, forall_mem_singleton]
  exact ⟨h, ha⟩

theorem all_set {P : α → Prop} (h : ∀ b ∈ p.values, P b) (ha : P a) :
    ∀ b ∈ (p.set id a).values, P b := fun b hb => (mem_set hb).elim (· ▸ ha) (h b)

/-- What holds of the one object that is added to none holds of all. -/
theorem all_add_empty {P : α → Prop} (h : p.size = 0) (ha : P a) : ∀ b ∈ (p.add a).values, P b :=
  all_add (fun _ hb => absurd hb (not_mem_empty h)) ha

/-- A pool of at most one object is empty behind its removal. -/
theorem remove_only (h : p.size ≤ 1) (hget : p.get id = some a) : (p.remove id).size = 0 := by
  have hsize := size_remove hget
  omega

/-! ## Totals -/

/-- The sum of `f` over the objects. -/
def total (f : α → Nat) (p : Pool α) : Nat := (p.values.map f).sum

theorem total_add (f : α → Nat) (p : Pool α) (a : α) : (p.add a).total f = p.total f + f a := by
  simp [total]

theorem total_remove (f : α → Nat) (h : p.get id = some a) :
    p.total f = f a + (p.remove id).total f := by
  have hsum := (((perm_remove h).map Prod.snd).map f).sum_nat
  simpa [total, values] using hsum

/-- A map that leaves every member of the list as it is. -/
theorem map_eq_self {l : List (Nat × α)} {g : Nat × α → Nat × α} (h : ∀ x ∈ l, g x = x) :
    l.map g = l :=
  (map_congr_left h).trans (map_id' l)

theorem perm_set (h : p.get id = some a) (b : α) :
    (p.set id b).items.Perm ((id, b) :: (p.remove id).items) := by
  have hperm := (perm_remove h).map fun x => if x.1 = id then (x.1, b) else x
  have hkeep : (p.remove id).items.map (fun x => if x.1 = id then (x.1, b) else x) =
      (p.remove id).items := by
    apply map_eq_self
    intro x hx
    have hne : x.1 ≠ id := by simpa using (mem_filter.mp hx).2
    rw [if_neg hne]
  rw [map_cons, if_pos rfl, hkeep] at hperm
  exact hperm

theorem total_set (f : α → Nat) (h : p.get id = some a) (b : α) :
    (p.set id b).total f = f b + (p.remove id).total f := by
  have hsum := (((perm_set h b).map Prod.snd).map f).sum_nat
  simpa [total, values] using hsum

theorem set_self (h : p.get id = some a) : p.set id a = p := by
  have hitems : (p.set id a).items = p.items := by
    apply map_eq_self
    intro x hx
    by_cases hid : x.1 = id
    · -- `x` is the object under `id`
      rcases mem_cons.mp ((perm_remove h).mem_iff.mp hx) with rfl | hmem
      · rw [if_pos rfl]
      · exact absurd hid (by simpa using (mem_filter.mp hmem).2)
    · rw [if_neg hid]
  simp only [set] at hitems ⊢
  simp only [hitems]

end Pool
