-- Finite maps without an order: lookup, insertion, removal, and the operations
-- that go over all entries. The order of the entries is not observable.
import Mathlib.Data.List.Basic
import Mathlib.Data.List.Nodup

open List

structure FinMap (κ α : Type*) where
  items : List (κ × α) := []
  nodup : (items.map Prod.fst).Nodup := by simp

namespace FinMap

variable {κ α : Type*} [DecidableEq κ] {m : FinMap κ α} {k j : κ} {a b : α}

abbrev empty : FinMap κ α := {}

def get (m : FinMap κ α) (k : κ) : Option α := (m.items.find? (·.1 = k)).map Prod.snd

def keys (m : FinMap κ α) : List κ := m.items.map Prod.fst

def values (m : FinMap κ α) : List α := m.items.map Prod.snd

/-- The entries whose keys pass. -/
def retain (m : FinMap κ α) (p : κ → Bool) : FinMap κ α where
  items := m.items.filter (p ·.1)
  nodup := by
    have hsub : ((m.items.filter (p ·.1)).map Prod.fst).Sublist (m.items.map Prod.fst) :=
      List.filter_sublist.map Prod.fst
    exact m.nodup.sublist hsub

def erase (m : FinMap κ α) (k : κ) : FinMap κ α := m.retain (· ≠ k)

def insert (m : FinMap κ α) (k : κ) (a : α) : FinMap κ α where
  items := (k, a) :: (m.erase k).items
  nodup := by
    rw [List.map_cons, List.nodup_cons]
    refine ⟨?_, (m.erase k).nodup⟩
    simp [erase, retain]

/-- `m.entry(k).or_insert(a)` -/
def or_insert (m : FinMap κ α) (k : κ) (a : α) : FinMap κ α :=
  if (m.get k).isSome then m else m.insert k a

/-- The values changed, each at its key. -/
def mapValues (m : FinMap κ α) (f : α → α) : FinMap κ α where
  items := m.items.map fun x => (x.1, f x.2)
  nodup := by
    rw [List.map_map]
    exact m.nodup

/-- The first item of a key is its only one. -/
theorem find_eq_some {items : List (κ × α)} (hnodup : (items.map Prod.fst).Nodup) :
    (items.find? (·.1 = k)).map Prod.snd = some a ↔ (k, a) ∈ items := by
  induction items with
  | nil => simp
  | cons x rest ih =>
    obtain ⟨j, b⟩ := x
    rw [map_cons, nodup_cons] at hnodup
    by_cases hj : j = k
    · subst hj
      have habsent : (j, a) ∉ rest := fun hmem =>
        hnodup.1 (mem_map.mpr ⟨(j, a), hmem, rfl⟩)
      simp [habsent, eq_comm]
    · have hne : k ≠ j := fun h => hj h.symm
      simp [hj, hne, ih hnodup.2]

theorem get_eq_some : m.get k = some a ↔ (k, a) ∈ m.items := find_eq_some m.nodup

@[simp] theorem get_empty (k : κ) : ({} : FinMap κ α).get k = none := rfl

theorem get_empty_ne {k : κ} {a : α} : ({} : FinMap κ α).get k ≠ some a :=
  (Option.some_ne_none a).symm

theorem mem_keys : k ∈ m.keys ↔ (m.get k).isSome := by
  rw [Option.isSome_iff_exists, keys, mem_map]
  constructor
  · rintro ⟨⟨j, a⟩, hmem, rfl⟩
    exact ⟨a, get_eq_some.mpr hmem⟩
  · rintro ⟨a, ha⟩
    exact ⟨(k, a), get_eq_some.mp ha, rfl⟩

theorem mem_values : a ∈ m.values ↔ ∃ k, m.get k = some a := by
  rw [values, mem_map]
  constructor
  · rintro ⟨⟨j, b⟩, hmem, rfl⟩
    exact ⟨j, get_eq_some.mpr hmem⟩
  · rintro ⟨k, hk⟩
    exact ⟨(k, a), get_eq_some.mp hk, rfl⟩

theorem get_retain (p : κ → Bool) (k : κ) : (m.retain p).get k = if p k then m.get k else none := by
  apply Option.ext
  intro a
  rw [get_eq_some, retain, mem_filter]
  cases hp : p k with
  | true => simp [get_eq_some]
  | false => simp

theorem get_erase (k j : κ) : (m.erase k).get j = if j = k then none else m.get j := by
  rw [erase, get_retain]
  by_cases hj : j = k <;> simp [hj]

theorem get_insert (k : κ) (a : α) (j : κ) :
    (m.insert k a).get j = if j = k then some a else m.get j := by
  apply Option.ext
  intro b
  rw [get_eq_some, insert, mem_cons, ← get_eq_some, get_erase]
  by_cases hj : j = k
  · simp [hj, eq_comm]
  · simp [hj]

theorem get_of_insert {k j : κ} {a b : α} (h : (m.insert k a).get j = some b) :
    (j = k ∧ b = a) ∨ (j ≠ k ∧ m.get j = some b) := by
  rw [get_insert] at h
  split at h
  · exact .inl ⟨by assumption, (Option.some.inj h).symm⟩
  · exact .inr ⟨by assumption, h⟩

theorem get_of_erase {k j : κ} {b : α} (h : (m.erase k).get j = some b) :
    j ≠ k ∧ m.get j = some b := by
  rw [get_erase] at h
  split at h
  · cases h
  · exact ⟨by assumption, h⟩

@[simp] theorem get_insert_self (k : κ) (a : α) : (m.insert k a).get k = some a := by
  rw [get_insert, if_pos rfl]

theorem get_or_insert (k : κ) (a : α) (j : κ) :
    (m.or_insert k a).get j = if j = k then some ((m.get k).getD a) else m.get j := by
  unfold or_insert
  cases hget : m.get k with
  | none => simp [get_insert]
  | some b =>
    by_cases hj : j = k
    · simp [hj, hget]
    · simp [hj]

theorem get_mapValues (f : α → α) (k : κ) : (m.mapValues f).get k = (m.get k).map f := by
  apply Option.ext
  intro b
  rw [get_eq_some, Option.map_eq_some_iff, mapValues, mem_map]
  constructor
  · rintro ⟨⟨j, a⟩, hmem, heq⟩
    cases heq
    exact ⟨a, get_eq_some.mpr hmem, rfl⟩
  · rintro ⟨a, ha, rfl⟩
    exact ⟨(k, a), get_eq_some.mp ha, rfl⟩

end FinMap
