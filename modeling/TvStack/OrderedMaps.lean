-- Finite maps that keep their keys in order, as the B-tree maps of a program do:
-- lookup, insertion and removal, equality of maps, and totals over the values.
import Mathlib.Algebra.Order.Ring.Int
import TvStack.Maps

open List

variable {κ α : Type*} [LinearOrder κ]

structure OrdMap (κ α : Type*) [LinearOrder κ] where
  items : List (κ × α) := []
  sorted : items.Pairwise fun x y => x.1 < y.1 := by simp

namespace OrdMap

variable {k : κ} {a : α} {m : OrdMap κ α}

abbrev empty : OrdMap κ α := {}

def get (m : OrdMap κ α) (k : κ) : Option α := (m.items.find? (·.1 = k)).map Prod.snd

def insert (m : OrdMap κ α) (k : κ) (a : α) : OrdMap κ α where
  items := m.items.filter (·.1 < k) ++ (k, a) :: m.items.filter (k < ·.1)
  sorted := by
    rw [List.pairwise_append, List.pairwise_cons]
    refine ⟨m.sorted.filter _, ⟨?_, m.sorted.filter _⟩, ?_⟩
    · intro y hy
      simpa using (List.mem_filter.mp hy).2
    · intro x hx y hy
      have hxk : x.1 < k := by simpa using (List.mem_filter.mp hx).2
      rcases List.mem_cons.mp hy with rfl | hy
      · exact hxk
      · have hky : k < y.1 := by simpa using (List.mem_filter.mp hy).2
        exact lt_trans hxk hky

/-- The items whose keys pass. -/
def restrict (m : OrdMap κ α) (p : κ → Bool) : OrdMap κ α where
  items := m.items.filter (p ·.1)
  sorted := m.sorted.filter _

def erase (m : OrdMap κ α) (k : κ) : OrdMap κ α := m.restrict (· ≠ k)

def size (m : OrdMap κ α) : Nat := m.items.length

def values (m : OrdMap κ α) : List α := m.items.map Prod.snd

/-- The sum of `f` over the values. -/
def total (f : α → Nat) (m : OrdMap κ α) : Nat := (m.values.map f).sum

theorem nodup_keys (m : OrdMap κ α) : (m.items.map Prod.fst).Nodup :=
  pairwise_map.mpr (m.sorted.imp fun h => ne_of_lt h)

theorem nodup (m : OrdMap κ α) : m.items.Nodup := .of_map _ m.nodup_keys

theorem get_eq_some (m : OrdMap κ α) : m.get k = some a ↔ (k, a) ∈ m.items :=
  FinMap.find_eq_some m.nodup_keys

/-- Maps with the same lookups are equal. -/
theorem ext_get {n : OrdMap κ α} (h : ∀ k, m.get k = n.get k) : m = n := by
  have hmem : ∀ x, x ∈ m.items ↔ x ∈ n.items := by
    rintro ⟨k, a⟩
    rw [← get_eq_some, ← get_eq_some, h k]
  have hperm := (perm_ext_iff_of_nodup m.nodup n.nodup).mpr hmem
  have hitems : m.items = n.items := by
    apply List.Perm.eq_of_pairwise _ m.sorted n.sorted hperm
    intro x y _ _ hxy hyx
    exact absurd (lt_trans hxy hyx) (lt_irrefl _)
  cases m
  cases hitems
  rfl

theorem mem_insert {x : κ × α} :
    x ∈ (m.insert k a).items ↔ x = (k, a) ∨ (x ∈ m.items ∧ x.1 ≠ k) := by
  simp only [insert, mem_append, mem_filter, mem_cons, decide_eq_true_eq]
  constructor
  · rintro (⟨hx, hlt⟩ | rfl | ⟨hx, hlt⟩)
    · exact .inr ⟨hx, ne_of_lt hlt⟩
    · exact .inl rfl
    · exact .inr ⟨hx, ne_of_gt hlt⟩
  · rintro (rfl | ⟨hx, hne⟩)
    · exact .inr (.inl rfl)
    · rcases lt_or_gt_of_ne hne with hlt | hlt
      · exact .inl ⟨hx, hlt⟩
      · exact .inr (.inr ⟨hx, hlt⟩)

theorem mem_erase {x : κ × α} : x ∈ (m.erase k).items ↔ x ∈ m.items ∧ x.1 ≠ k := by
  simp [erase, restrict]

theorem get_insert (m : OrdMap κ α) (k : κ) (a : α) (j : κ) :
    (m.insert k a).get j = if j = k then some a else m.get j := by
  apply Option.ext
  intro b
  rw [get_eq_some, mem_insert, ← get_eq_some]
  by_cases hj : j = k
  · simp [hj, eq_comm]
  · simp [hj]

theorem get_of_insert {j : κ} {b : α} (h : (m.insert k a).get j = some b) :
    (j = k ∧ b = a) ∨ m.get j = some b := by
  rw [get_insert] at h
  split at h
  · exact .inl ⟨by assumption, (Option.some.inj h).symm⟩
  · exact .inr h

theorem get_restrict (m : OrdMap κ α) (p : κ → Bool) (j : κ) :
    (m.restrict p).get j = if p j then m.get j else none := by
  apply Option.ext
  intro b
  rw [get_eq_some, restrict, mem_filter, ← get_eq_some]
  by_cases hj : p j = true <;> simp [hj]

theorem get_erase (m : OrdMap κ α) (k j : κ) :
    (m.erase k).get j = if j = k then none else m.get j := by
  rw [erase, get_restrict]
  by_cases hj : j = k <;> simp [hj]

theorem get_of_erase {j : κ} {b : α} (h : (m.erase k).get j = some b) :
    j ≠ k ∧ m.get j = some b := by
  rw [get_erase] at h
  split at h
  · cases h
  · exact ⟨by assumption, h⟩

/-- An insertion of a key that does not pass is not seen. -/
theorem restrict_insert (m : OrdMap κ α) {p : κ → Bool} (a : α) (h : p k = false) :
    (m.insert k a).restrict p = m.restrict p := by
  apply ext_get
  intro j
  rw [get_restrict, get_restrict, get_insert]
  by_cases hj : j = k
  · simp [hj, h]
  · simp [hj]

theorem insert_self (h : m.get k = some a) : m.insert k a = m := by
  apply ext_get
  intro j
  rw [get_insert]
  split_ifs with hj
  · rw [hj, h]
  · rfl

theorem insert_erase (m : OrdMap κ α) (k : κ) (a : α) : (m.erase k).insert k a = m.insert k a := by
  apply ext_get
  intro j
  rw [get_insert, get_insert, get_erase]
  by_cases hj : j = k <;> simp [hj]

theorem insert_insert (m : OrdMap κ α) (k : κ) (a b : α) :
    (m.insert k a).insert k b = m.insert k b := by
  apply ext_get
  intro j
  rw [get_insert, get_insert, get_insert]
  by_cases hj : j = k <;> simp [hj]

/-- An insertion takes the old item of the key out and puts the new one in. -/
theorem insert_perm (m : OrdMap κ α) (k : κ) (a : α) :
    (m.insert k a).items.Perm ((k, a) :: (m.erase k).items) := by
  have hnodup : ((k, a) :: (m.erase k).items).Nodup := by
    refine nodup_cons.mpr ⟨fun hmem => ?_, (m.erase k).nodup⟩
    exact (mem_erase.mp hmem).2 rfl
  apply (perm_ext_iff_of_nodup (m.insert k a).nodup hnodup).mpr
  intro x
  rw [mem_insert, mem_cons, mem_erase]

/-- A removal takes the item of the key out, if there is one. -/
theorem perm_erase (h : m.get k = some a) : m.items.Perm ((k, a) :: (m.erase k).items) := by
  have hperm := m.insert_perm k a
  rwa [insert_self h] at hperm

theorem erase_absent (h : m.get k = none) : m.erase k = m := by
  apply ext_get
  intro j
  apply Option.ext
  intro b
  rw [get_eq_some, get_eq_some, mem_erase]
  refine and_iff_left_of_imp fun hx => ?_
  rintro rfl
  have hb := m.get_eq_some.mpr hx
  rw [h] at hb
  cases hb

theorem values_insert (m : OrdMap κ α) (k : κ) (a : α) :
    (m.insert k a).values.Perm (a :: (m.erase k).values) :=
  (m.insert_perm k a).map Prod.snd

theorem values_erase (h : m.get k = some a) : m.values.Perm (a :: (m.erase k).values) :=
  (perm_erase h).map Prod.snd

theorem total_insert (f : α → Nat) (m : OrdMap κ α) (k : κ) (a : α) :
    (m.insert k a).total f = f a + (m.erase k).total f := by
  have hperm := ((m.insert_perm k a).map Prod.snd).map f
  have hsum := hperm.sum_nat
  simpa [total, values] using hsum

theorem total_erase (f : α → Nat) (h : m.get k = some a) :
    m.total f = f a + (m.erase k).total f := by
  have hperm := ((perm_erase h).map Prod.snd).map f
  have hsum := hperm.sum_nat
  simpa [total, values] using hsum

theorem countP_insert (p : α → Bool) (m : OrdMap κ α) (k : κ) (a : α) :
    (m.insert k a).values.countP p = (m.erase k).values.countP p + if p a then 1 else 0 := by
  exact ((m.values_insert k a).countP_eq p).trans countP_cons

theorem countP_erase (p : α → Bool) (h : m.get k = some a) :
    m.values.countP p = (m.erase k).values.countP p + if p a then 1 else 0 := by
  exact ((values_erase h).countP_eq p).trans countP_cons

/-! ## Maps that index a list -/

section Indexes

variable {β : Type*} {key : β → κ} {value : β → Option α} {seen seen' : List β} {m n : OrdMap κ α}

/-- The map has the values of the listed things under their keys, and nothing else. -/
def Indexes (key : β → κ) (value : β → Option α) (seen : List β) (m : OrdMap κ α) : Prop :=
  ∀ k a, m.get k = some a ↔ ∃ b ∈ seen, key b = k ∧ value b = some a

theorem indexes_nil (key : β → κ) (value : β → Option α) :
    ({} : OrdMap κ α).Indexes key value [] := by
  intro k a
  simp [get]

/-- Only the set of the listed things counts. -/
theorem Indexes.congr (h : m.Indexes key value seen) (hsame : ∀ b, b ∈ seen ↔ b ∈ seen') :
    m.Indexes key value seen' := by
  intro k a
  rw [h k a]
  simp only [hsame]

theorem Indexes.unique (hm : m.Indexes key value seen) (hn : n.Indexes key value seen) : m = n := by
  apply ext_get
  intro k
  apply Option.ext
  intro a
  rw [hm k a, hn k a]

variable (h : m.Indexes key value seen)
include h

theorem Indexes.get_isSome {k : κ} :
    (m.get k).isSome ↔ ∃ b ∈ seen, key b = k ∧ (value b).isSome := by
  simp only [Option.isSome_iff_exists, h k]
  constructor
  · rintro ⟨a, b, hb, hkey, ha⟩
    exact ⟨b, hb, hkey, a, ha⟩
  · rintro ⟨b, hb, hkey, a, ha⟩
    exact ⟨a, b, hb, hkey, ha⟩

/-- A thing without a value needs no item. -/
theorem Indexes.skip {b : β} (hb : value b = none) : m.Indexes key value (b :: seen) := by
  intro k a
  simp [h k a, hb]

theorem Indexes.insert {b : β} {a : α} (hb : value b = some a)
    (hagree : ∀ c ∈ seen, key c = key b → value c = value b) :
    (m.insert (key b) a).Indexes key value (b :: seen) := by
  intro k x
  rw [get_insert]
  simp only [mem_cons, exists_eq_or_imp, hb]
  by_cases hk : k = key b
  · subst hk
    simp only [if_true, true_and]
    refine ⟨.inl, ?_⟩
    rintro (hx | ⟨c, hc, hkey, hx⟩)
    · exact hx
    · rw [← hx, hagree c hc hkey, hb]
  · rw [if_neg hk, h k x]
    simp [Ne.symm hk]

theorem Indexes.erase {b : β} (hb : value b = none)
    (hagree : ∀ c ∈ seen, key c = key b → value c = value b) :
    (m.erase (key b)).Indexes key value (b :: seen) := by
  have habsent : m.get (key b) = none := by
    rw [Option.eq_none_iff_forall_ne_some]
    intro a ha
    obtain ⟨c, hc, hkey, hvalue⟩ := (h _ _).mp ha
    rw [hagree c hc hkey, hb] at hvalue
    cases hvalue
  rw [erase_absent habsent]
  exact h.skip hb

end Indexes

end OrdMap
