-- Reference counts: things are held, each is in a group, and each group has one
-- counter for all of its things that are held.
import TvStack.Maps

namespace RefCounts

variable {ι κ : Type*} [DecidableEq κ] {group group' : ι → Option κ} {held held' : List ι}
  {counts : FinMap κ Nat} {i : ι} {k : κ}

/-- How many of the things held are in the group `k`. -/
def share (group : ι → Option κ) (held : List ι) (k : κ) : Nat :=
  held.countP fun i => group i = some k

/-- Every group with a thing in it has a counter, every counter tells the share of its group,
and everything held is in a group. -/
structure Counts (group : ι → Option κ) (held : List ι) (counts : FinMap κ Nat) : Prop where
  grouped : ∀ i ∈ held, (group i).isSome
  counter : ∀ i k, group i = some k → (counts.get k).isSome
  exact : ∀ k n, counts.get k = some n → n = share group held k

theorem share_cons (group : ι → Option κ) (i : ι) (held : List ι) (k : κ) :
    share group (i :: held) k = share group held k + if group i = some k then 1 else 0 := by
  simp only [share, List.countP_cons, decide_eq_true_eq]

theorem share_perm (hperm : held.Perm held') (k : κ) : share group held k = share group held' k :=
  hperm.countP_eq _

theorem Counts.get (h : Counts group held counts) (hi : group i = some k) :
    counts.get k = some (share group held k) := by
  obtain ⟨n, hn⟩ := Option.isSome_iff_exists.mp (h.counter i k hi)
  rw [hn, h.exact k n hn]

theorem Counts.perm (h : Counts group held counts) (hperm : held.Perm held') :
    Counts group held' counts where
  grouped := fun i hi => h.grouped i (hperm.mem_iff.mpr hi)
  counter := h.counter
  exact := by
    intro k n hn
    rw [h.exact k n hn, share_perm hperm]

/-- One more thing is held, and the counter of its group is one up. -/
theorem Counts.retain (h : Counts group held counts) (hi : group i = some k) :
    Counts group (i :: held) (counts.insert k (share group held k + 1)) where
  grouped := by
    intro j hj
    rcases List.mem_cons.mp hj with rfl | hj
    · rw [hi]
      rfl
    · exact h.grouped j hj
  counter := by
    intro j l hj
    rw [FinMap.get_insert]
    split
    · rfl
    · exact h.counter j l hj
  exact := by
    intro l n hn
    rw [share_cons, hi]
    rcases FinMap.get_of_insert hn with ⟨rfl, rfl⟩ | ⟨hl, hn⟩
    · rw [if_pos rfl]
    · rw [if_neg (fun heq => hl (Option.some.inj heq).symm)]
      exact h.exact l n hn

/-- One thing is let go, and the counter of its group is one down. -/
theorem Counts.release (h : Counts group (i :: held) counts) (hi : group i = some k) :
    Counts group held (counts.insert k (share group held k)) where
  grouped := fun j hj => h.grouped j (List.mem_cons_of_mem i hj)
  counter := by
    intro j l hj
    rw [FinMap.get_insert]
    split
    · rfl
    · exact h.counter j l hj
  exact := by
    intro l n hn
    rcases FinMap.get_of_insert hn with ⟨rfl, rfl⟩ | ⟨hl, hn⟩
    · rfl
    · have hexact := h.exact l n hn
      rwa [share_cons, hi, if_neg (fun heq => hl (Option.some.inj heq).symm)] at hexact

/-- A thing that was in no group joins one, whose counter starts at zero if it is new. -/
theorem Counts.join (h : Counts group held counts) (hnone : group i = none) (hi : group' i = some k)
    (hrest : ∀ j, j ≠ i → group' j = group j) {counts' : FinMap κ Nat}
    (hcounts : ∀ l, counts'.get l = if l = k then some ((counts.get k).getD 0) else counts.get l) :
    Counts group' held counts' := by
  have hheld : ∀ j ∈ held, group' j = group j := by
    intro j hj
    apply hrest
    rintro rfl
    have hsome := h.grouped j hj
    rw [hnone] at hsome
    exact absurd hsome Bool.false_ne_true
  have hshare (l : κ) : share group' held l = share group held l :=
    List.countP_congr fun j hj => by rw [hheld j hj]
  refine ⟨fun j hj => ?_, fun j l hj => ?_, fun l n hn => ?_⟩
  · rw [hheld j hj]
    exact h.grouped j hj
  · rw [hcounts]
    split
    · rfl
    rename_i hl
    by_cases hji : j = i
    · subst hji
      rw [hi] at hj
      exact absurd (Option.some.inj hj).symm hl
    · rw [hrest j hji] at hj
      exact h.counter j l hj
  · rw [hshare]
    rw [hcounts] at hn
    by_cases hl : l = k
    · subst hl
      rw [if_pos rfl] at hn
      cases hget : counts.get l with
      | some m =>
        rw [hget] at hn
        rw [← h.exact l m hget, ← Option.some.inj hn]
        rfl
      | none =>
        -- without a counter nothing is in the group, so nothing held is
        rw [hget] at hn
        rw [← Option.some.inj hn]
        refine (List.countP_eq_zero.mpr fun j hj hgroup => ?_).symm
        have hsome := h.counter j l (of_decide_eq_true hgroup)
        rw [hget] at hsome
        exact absurd hsome Bool.false_ne_true
    · rw [if_neg hl] at hn
      exact h.exact l n hn

/-- Nothing is held any more, and every counter is at zero. -/
theorem Counts.clear (h : Counts group held counts) :
    Counts group [] (counts.mapValues fun _ => 0) where
  grouped := by simp
  counter := by
    intro i k hi
    rw [FinMap.get_mapValues, Option.isSome_map]
    exact h.counter i k hi
  exact := by
    intro k n hn
    rw [FinMap.get_mapValues] at hn
    obtain ⟨m, -, rfl⟩ := Option.map_eq_some_iff.mp hn
    rfl

theorem counts_empty (group : ι → Option κ) (hnone : ∀ i, group i = none) :
    Counts group [] ({} : FinMap κ Nat) where
  grouped := by simp
  counter := by
    intro i k hi
    rw [hnone i] at hi
    cases hi
  exact := by
    intro k n hn
    cases hn

end RefCounts
