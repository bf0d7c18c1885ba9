-- Forests that are given by the parent of each node: nodes below others, the
-- absence of cycles, what edits keep it, and the list of all nodes below one.
import Mathlib.Data.List.Nodup
import Mathlib.Data.List.Perm.Subperm
import Mathlib.Logic.Relation

open List Relation

namespace Forests

variable {κ : Type*} {parent parent' : κ → Option κ} {a b x : κ}

def ChildOf (parent : κ → Option κ) (a b : κ) : Prop := parent a = some b

/-- `a` is below `b`: one or more parents up. -/
abbrev Below (parent : κ → Option κ) : κ → κ → Prop := TransGen (ChildOf parent)

/-- `a` is `b` or below it. -/
abbrev Within (parent : κ → Option κ) : κ → κ → Prop := ReflTransGen (ChildOf parent)

def Acyclic (parent : κ → Option κ) : Prop := ∀ k, ¬ Below parent k k

theorem within_iff : Within parent a b ↔ a = b ∨ Below parent a b := by
  rw [Within, reflTransGen_iff_eq_or_transGen, eq_comm]

/-- Two nodes above one node are above each other. -/
theorem comparable (ha : Within parent x a) (hb : Within parent x b) :
    Within parent a b ∨ Within parent b a :=
  ha.total_of_right_unique (fun _ _ _ h h' => Option.some.inj (h.symm.trans h')) hb

theorem Acyclic.not_within (h : Acyclic parent) (hbelow : Below parent a b) : ¬ Within parent b a :=
  fun hback => h a (hbelow.trans_left hback)

/-- Of two nodes with the same parent, or both without one, neither is within the other. -/
theorem Acyclic.siblings_apart (h : Acyclic parent) (hsame : parent a = parent b) (hne : a ≠ b) :
    ¬ Within parent a b := by
  intro hab
  rcases within_iff.mp hab with heq | hbelow
  · exact hne heq
  · obtain ⟨p, hp, hpb⟩ := TransGen.head'_iff.mp hbelow
    have hb : parent b = some p := hsame.symm.trans hp
    exact h.not_within (.single hb) hpb

/-- Nothing is within both of two such nodes. -/
theorem Acyclic.nothing_shared (h : Acyclic parent) (hsame : parent a = parent b) (hne : a ≠ b)
    (ha : Within parent x a) : ¬ Within parent x b := by
  intro hb
  rcases comparable ha hb with hab | hba
  · exact h.siblings_apart hsame hne hab
  · exact h.siblings_apart hsame.symm hne.symm hba

/-- Taking parents away closes no cycle. -/
theorem Acyclic.mono (h : Acyclic parent)
    (hsub : ∀ a b, parent' a = some b → parent a = some b) : Acyclic parent' :=
  fun k hcycle => h k (TransGen.mono hsub _ _ hcycle)

/-- A path either has all its parents from before, or passes the node with the new parent. -/
theorem Below.avoid_or_pass (hsub : ∀ a b, a ≠ x → parent' a = some b → parent a = some b)
    (hpath : Below parent' a b) : Below parent a b ∨ (Within parent' a x ∧ Below parent' x b) := by
  induction hpath with
  | single hedge =>
    by_cases ha : a = x
    · subst ha
      exact .inr ⟨.refl, .single hedge⟩
    · exact .inl (.single (hsub _ _ ha hedge))
  | @tail c d hpath hedge ih =>
    rcases ih with hold | ⟨hup, hdown⟩
    · by_cases hc : c = x
      · subst hc
        exact .inr ⟨hpath.to_reflTransGen, .single hedge⟩
      · exact .inl (hold.tail (hsub _ _ hc hedge))
    · exact .inr ⟨hup, hdown.tail hedge⟩

/-- A node with a new parent closes no cycle when there is no way from that parent back. -/
theorem Acyclic.graft (h : Acyclic parent)
    (hsub : ∀ a b, a ≠ x → parent' a = some b → parent a = some b)
    (hback : ∀ b, parent' x = some b → ¬ Within parent' b x) : Acyclic parent' := by
  intro k hcycle
  rcases Below.avoid_or_pass hsub hcycle with hold | ⟨hup, hdown⟩
  · exact h k hold
  · obtain ⟨b, hfirst, hrest⟩ := TransGen.head'_iff.mp (hdown.trans_left hup)
    exact hback b hfirst hrest

/-- A way up to the node with the new parent has all its parents from before. -/
theorem Within.of_graft (hsub : ∀ a b, a ≠ x → parent' a = some b → parent a = some b)
    (hpath : Within parent' a x) : Within parent a x := by
  induction hpath using ReflTransGen.head_induction_on with
  | refl => exact .refl
  | @head a c hedge _ ih =>
    by_cases ha : a = x
    · subst ha
      exact .refl
    · exact ih.head (hsub _ _ ha hedge)

/-! ## The nodes below a node -/

/-- The lists of `f` one after the other, if all of them are there. -/
def extendAll {α β : Type*} (f : α → Option (List β)) (l : List α) : Option (List β) :=
  l.foldlM (fun result a => (f a).map (result ++ ·)) []

/-- All nodes below `k`, each after those below it. The walk goes down the children; it does not
return when it goes deeper than its fuel. -/
def descend (children : κ → List κ) : Nat → κ → Option (List κ)
  | 0, _ => none
  | fuel + 1, k =>
    extendAll (fun child => (descend children fuel child).map (· ++ [child])) (children k)

/-- The children of a node are the nodes whose parent it is, each once. -/
structure Children (parent : κ → Option κ) (children : κ → List κ) : Prop where
  mem : ∀ {k child}, child ∈ children k ↔ parent child = some k
  nodup : ∀ k, (children k).Nodup

theorem foldlM_extend {α β : Type*} {f : α → Option (List β)} {l : List α} (start : List β) :
    (∀ out, l.foldlM (fun result a => (f a).map (result ++ ·)) start = some out →
      (∀ a ∈ l, (f a).isSome) ∧ out = start ++ l.flatMap fun a => (f a).getD []) ∧
    ((∀ a ∈ l, (f a).isSome) →
      (l.foldlM (fun result a => (f a).map (result ++ ·)) start).isSome) := by
  induction l generalizing start with
  | nil =>
    refine ⟨fun out h => ?_, fun _ => rfl⟩
    cases h
    simp
  | cons a rest ih =>
    rw [foldlM_cons]
    cases ha : f a with
    | none =>
      refine ⟨nofun, fun h => ?_⟩
      have hsome := h a mem_cons_self
      rw [ha] at hsome
      cases hsome
    | some more =>
      have hall := (ih (start ++ more)).1
      have hsome := (ih (start ++ more)).2
      refine ⟨fun out h => ?_, fun h => hsome fun b hb => h b (mem_cons_of_mem _ hb)⟩
      obtain ⟨hrest, rfl⟩ := hall out h
      refine ⟨fun b hb => ?_, by simp [ha]⟩
      rcases mem_cons.mp hb with rfl | hb
      · rw [ha]
        rfl
      · exact hrest b hb

variable {children : κ → List κ} {fuel : Nat} {k : κ} {below : List κ}

/-- The walk of a node is the walks of its children, each with the child after it. -/
theorem descend_succ (h : descend children (fuel + 1) k = some below) :
    ∃ under : κ → List κ, (∀ child ∈ children k, descend children fuel child = some (under child)) ∧
      below = (children k).flatMap fun child => under child ++ [child] := by
  obtain ⟨hall, rfl⟩ := (foldlM_extend []).1 below h
  refine ⟨fun child => (descend children fuel child).getD [], fun child hchild => ?_, ?_⟩
  · obtain ⟨under, hunder⟩ := Option.isSome_iff_exists.mp (Option.isSome_map ▸ hall child hchild)
    simp only [hunder, Option.getD_some]
  · refine flatMap_congr fun child hchild => ?_
    obtain ⟨under, hunder⟩ := Option.isSome_iff_exists.mp (Option.isSome_map ▸ hall child hchild)
    simp only [hunder, Option.map_some, Option.getD_some]

/-- The walk lists the nodes below `k`. -/
theorem mem_descend (hchildren : Children parent children)
    (h : descend children fuel k = some below) : x ∈ below ↔ Below parent x k := by
  induction fuel generalizing k below with
  | zero => cases h
  | succ fuel ih =>
    obtain ⟨under, hunder, rfl⟩ := descend_succ h
    rw [mem_flatMap, Below, TransGen.tail'_iff]
    refine exists_congr fun child => ?_
    rw [hchildren.mem, and_comm]
    refine and_congr_left fun hchild => ?_
    rw [mem_append, mem_singleton, ih (hunder child (hchildren.mem.mpr hchild)), or_comm]
    exact within_iff.symm

theorem nodup_descend (hacyclic : Acyclic parent) (hchildren : Children parent children)
    (h : descend children fuel k = some below) : below.Nodup := by
  induction fuel generalizing k below with
  | zero => cases h
  | succ fuel ih =>
    obtain ⟨under, hunder, rfl⟩ := descend_succ h
    have hwithin : ∀ child ∈ children k, ∀ x ∈ under child ++ [child], Within parent x child := by
      intro child hchild x hx
      rcases mem_append.mp hx with hx | hx
      · exact ((mem_descend hchildren (hunder child hchild)).mp hx).to_reflTransGen
      · rw [mem_singleton.mp hx]
    refine nodup_flatMap.mpr ⟨fun child hchild => ?_, ?_⟩
    · refine nodup_append.mpr ⟨ih (hunder child hchild), nodup_singleton _, ?_⟩
      rintro x hx y hy rfl
      rw [mem_singleton.mp hy] at hx
      exact hacyclic child ((mem_descend hchildren (hunder child hchild)).mp hx)
    · refine (hchildren.nodup k).imp_of_mem fun {c d} hc hd hne => ?_
      have hsame := (hchildren.mem.mp hc).trans (hchildren.mem.mp hd).symm
      exact fun x hxc hxd =>
        hacyclic.nothing_shared hsame hne (hwithin c hc x hxc) (hwithin d hd x hxd)

/-! ## Fuel for walks down -/

/-- A walk that is at `k` with this much fuel cannot run out of it: it came through different
nodes of `nodes`, and the fuel is more than the rest of them. -/
def Room (parent : κ → Option κ) (nodes : List κ) (fuel : Nat) (k : κ) : Prop :=
  ∃ seen : List κ, seen.Nodup ∧ seen ⊆ nodes ∧ (∀ s ∈ seen, Within parent k s) ∧
    nodes.length < fuel + seen.length

variable {nodes : List κ}

theorem Room.start (hfuel : nodes.length < fuel) : Room parent nodes fuel k :=
  ⟨[], nodup_nil, nil_subset _, nofun, by simpa using hfuel⟩

theorem Room.start_node (hnode : k ∈ nodes) (hfuel : nodes.length ≤ fuel) :
    Room parent nodes fuel k := by
  refine ⟨[k], nodup_singleton _, cons_subset.mpr ⟨hnode, nil_subset _⟩, ?_, ?_⟩
  · intro s hs
    rw [mem_singleton.mp hs]
  · simp only [length_singleton]
    omega

theorem Room.fuel_pos (h : Room parent nodes fuel k) : 0 < fuel := by
  obtain ⟨seen, hnodup, hsub, -, hlt⟩ := h
  have hle : seen.length ≤ nodes.length := (subperm_of_subset hnodup hsub).length_le
  omega

/-- A walk with room has room for one more step down. -/
theorem Room.down (hacyclic : Acyclic parent) (h : Room parent nodes (fuel + 1) k)
    (hparent : parent a = some k) (hnode : a ∈ nodes) : Room parent nodes fuel a := by
  obtain ⟨seen, hnodup, hsub, hup, hlt⟩ := h
  have hnew : a ∉ seen := fun hmem => hacyclic.not_within (.single hparent) (hup a hmem)
  refine ⟨a :: seen, nodup_cons.mpr ⟨hnew, hnodup⟩, cons_subset.mpr ⟨hnode, hsub⟩,
    fun s hs => ?_, by simp only [length_cons]; omega⟩
  rcases mem_cons.mp hs with rfl | hs
  · exact .refl
  · exact (hup s hs).head hparent

/-- The walk returns when its fuel is more than the number of nodes with a parent. -/
theorem descend_returns (hacyclic : Acyclic parent) (hchildren : Children parent children)
    (hnodes : ∀ a b, parent a = some b → a ∈ nodes) (hfuel : nodes.length < fuel) :
    (descend children fuel k).isSome := by
  suffices hroom : ∀ (fuel : Nat) (k : κ), Room parent nodes fuel k →
      (descend children fuel k).isSome from hroom fuel k (.start hfuel)
  intro fuel
  induction fuel with
  | zero => exact fun k h => absurd h.fuel_pos (Nat.lt_irrefl 0)
  | succ fuel ih =>
    intro k hroom
    refine (foldlM_extend []).2 fun child hchild => ?_
    have hparent := hchildren.mem.mp hchild
    rw [Option.isSome_map]
    exact ih child (hroom.down hacyclic hparent (hnodes child k hparent))

end Forests
