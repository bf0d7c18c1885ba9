-- The owners of the objects form a forest, so the walks up and down the owners
-- return, and the walk down finds every object once. A cascade changes the lifecycles
-- in the subtree of its root and nothing else; a call that returns an error changes no
-- entry.
import TvStack.ObjectTable

open Forests Relation List

namespace tuner_hal2_service_runtime.RuntimeObjectTable

open ObjectEntries RuntimeOwnerRelation

variable {t t' : RuntimeObjectTable} {id : AidlObjectId} {e : RuntimeObjectEntry} {k : ObjectKey}

/-! ## The owner graph -/

/-- The owner that the entry of a handle names. -/
def parent (t : RuntimeObjectTable) (k : ObjectKey) : Option ObjectKey :=
  ((t.entry k.1).filter (·.generation = k.2)).bind (·.owner.key)

/-- The handle names an entry of the table. -/
def Holds (t : RuntimeObjectTable) (k : ObjectKey) (e : RuntimeObjectEntry) : Prop :=
  t.entry k.1 = some e ∧ e.generation = k.2

theorem Holds.key_eq (h : t.Holds k e) : e.key = k :=
  Prod.ext (object_id_of_get h.1) h.2

theorem Holds.unique {e' : RuntimeObjectEntry} (h : t.Holds k e) (h' : t.Holds k e') : e = e' :=
  Option.some.inj (h.1.symm.trans h'.1)

theorem holds_of_entry (h : t.entry id = some e) : t.Holds e.key e := by
  refine ⟨?_, rfl⟩
  rw [RuntimeObjectEntry.key, object_id_of_get h]
  exact h

theorem parent_eq_some {owner : ObjectKey} :
    t.parent k = some owner ↔ ∃ e, t.Holds k e ∧ e.owner.key = some owner := by
  simp only [parent, Holds, Option.bind_eq_some_iff, Option.filter_eq_some_iff, decide_eq_true_eq]

theorem Holds.parent_eq (h : t.Holds k e) : t.parent k = e.owner.key := by
  simp only [parent, h.1, Option.filter_some, h.2, decide_true, if_true, Option.bind_some]

/-- Tables with the same owners under the same handles have the same graph. -/
theorem parent_congr (h : ∀ id, (t'.entry id).map (fun e => (e.generation, e.owner)) =
    (t.entry id).map fun e => (e.generation, e.owner)) : t'.parent = t.parent := by
  funext k
  have hk := h k.1
  unfold parent
  cases ht : t.entry k.1 with
  | none =>
    rw [ht] at hk
    rw [Option.map_eq_none_iff.mp hk]
  | some e =>
    rw [ht] at hk
    obtain ⟨e', he', heq⟩ := Option.map_eq_some_iff.mp hk
    obtain ⟨hgeneration, howner⟩ := Prod.mk.inj heq
    simp only [he', Option.filter_some, hgeneration]
    split
    · exact congrArg key howner
    · rfl

theorem nodup_keys (t : RuntimeObjectTable) : (t.entries.values.map (·.key)).Nodup := by
  have hids : (t.entries.values.map (·.key)).map Prod.fst = t.entries.map.items.map Prod.fst := by
    rw [values, OrdMap.values, List.map_map, List.map_map]
    refine map_congr_left fun item hitem => ?_
    exact t.entries.keyed (t.entries.map.get_eq_some.mpr hitem)
  refine List.Nodup.of_map Prod.fst ?_
  rw [hids]
  refine t.entries.map.sorted.map _ fun x y hlt => ne_of_lt hlt

theorem children_owned_keys (t : RuntimeObjectTable) : Children t.parent t.owned_keys where
  mem := by
    intro owner child
    rw [owned_keys, mem_map, parent_eq_some]
    constructor
    · rintro ⟨e, he, rfl⟩
      obtain ⟨hmem, howns⟩ := mem_filter.mp he
      exact ⟨e, ⟨mem_values.mp hmem, rfl⟩, of_decide_eq_true howns⟩
    · rintro ⟨e, hholds, howner⟩
      refine ⟨e, mem_filter.mpr ⟨?_, decide_eq_true howner⟩, hholds.key_eq⟩
      rw [mem_values, object_id_of_get hholds.1]
      exact hholds.1
  nodup owner := (t.nodup_keys.sublist (filter_sublist.map _))

theorem mem_keys_of_parent {owner : ObjectKey} (h : t.parent k = some owner) :
    k ∈ t.entries.values.map (·.key) := by
  obtain ⟨e, hholds, -⟩ := parent_eq_some.mp h
  rw [mem_map]
  refine ⟨e, ?_, hholds.key_eq⟩
  rw [mem_values, object_id_of_get hholds.1]
  exact hholds.1

/-- The walk down the owners returns, and lists each object below the owner once. -/
theorem descendant_object_keys.spec (h : Acyclic t.parent) (id : AidlObjectId)
    (generation : AidlObjectGeneration) :
    ∃ keys, t.descendant_object_keys id generation = some keys ∧ keys.Nodup := by
  have hreturns : (t.descendant_object_keys id generation).isSome :=
    descend_returns h t.children_owned_keys (fun a b => mem_keys_of_parent)
      (by rw [length_map]; exact Nat.lt_succ_self _)
  obtain ⟨keys, hkeys⟩ := Option.isSome_iff_exists.mp hreturns
  exact ⟨keys, hkeys, nodup_descend h t.children_owned_keys hkeys⟩

/-! ## Owners that are alive -/

/-- The owner is the root, or a live entry of the kind and the generation that the relation names,
with an owner that is alive in turn. -/
inductive OwnerLive (t : RuntimeObjectTable) : RuntimeOwnerRelation → Prop
  | root {owner} (h : owner.referenced_object = none) : OwnerLive t owner
  | owned {owner kind k e} (names : owner.referenced_object = some (kind, k)) (holds : t.Holds k e)
      (same_kind : e.object_kind = kind) (live : e.lifecycle = .Live) (up : OwnerLive t e.owner) :
      OwnerLive t owner

theorem is_live_iff {l : RuntimeObjectLifecycle} : l.is_live = true ↔ l = .Live := by
  cases l <;> simp [RuntimeObjectLifecycle.is_live]

theorem owner_live_of_ensure {fuel : Nat} {owner : RuntimeOwnerRelation}
    (h : t.ensure_owner_live_within fuel id owner = some (.ok ())) : t.OwnerLive owner := by
  induction fuel generalizing id owner with
  | zero => cases h
  | succ fuel ih =>
    unfold ensure_owner_live_within at h
    split at h
    · exact .root (by assumption)
    rename_i kind owner_id generation hnames
    split at h
    · cases h
    rename_i e he
    split at h
    · cases h
    rename_i hkind
    split at h
    · cases h
    rename_i hgeneration
    split at h
    · cases h
    rename_i hlive
    exact .owned hnames ⟨he, not_not.mp hgeneration⟩ (not_not.mp hkind)
      (is_live_iff.mp (not_not.mp hlive)) (ih h)

/-- The walk up the owners returns when the owners form no cycle. -/
theorem ensure_owner_live_for.returns (hacyclic : Acyclic t.parent) (id : AidlObjectId)
    (owner : RuntimeOwnerRelation) : (t.ensure_owner_live_for id owner).isSome := by
  -- `seen` are the entries that the walk came through: all are below the next one
  suffices hseen : ∀ (fuel : Nat) (id : AidlObjectId) (owner : RuntimeOwnerRelation)
      (seen : List ObjectKey), seen.Nodup → seen ⊆ t.entries.values.map (·.key) →
      (∀ s ∈ seen, ∀ k, owner.key = some k → Below t.parent s k) →
      t.entries.values.length < fuel + seen.length →
      (t.ensure_owner_live_within fuel id owner).isSome by
    exact hseen _ id owner [] nodup_nil (nil_subset _) nofun
      (Nat.lt_succ_self _)
  intro fuel
  induction fuel with
  | zero =>
    intro id owner seen hnodup hsub _ hlt
    have hle := (subperm_of_subset hnodup hsub).length_le
    rw [length_map] at hle
    omega
  | succ fuel ih =>
    intro id owner seen hnodup hsub hbelow hlt
    unfold ensure_owner_live_within
    split
    · rfl
    rename_i kind owner_id generation hnames
    split
    · rfl
    rename_i e he
    split
    · rfl
    split
    · rfl
    rename_i hgeneration
    split
    · rfl
    have hholds : t.Holds (owner_id, generation) e := ⟨he, not_not.mp hgeneration⟩
    have hkey : owner.key = some (owner_id, generation) := by
      rw [key, hnames]
      rfl
    have hup : ∀ k, e.owner.key = some k → ChildOf t.parent (owner_id, generation) k :=
      fun k hk => parent_eq_some.mpr ⟨e, hholds, hk⟩
    refine ih owner_id e.owner ((owner_id, generation) :: seen)
      (nodup_cons.mpr ⟨fun hmem => ?_, hnodup⟩)
      (cons_subset.mpr ⟨?_, hsub⟩) (fun s hs k hk => ?_) (by simp; omega)
    · exact hacyclic _ (hbelow _ hmem _ hkey)
    · rw [← hholds.key_eq]
      exact mem_map.mpr ⟨e, mem_values.mpr
        (by rw [object_id_of_get he]; exact he), rfl⟩
    · rcases mem_cons.mp hs with rfl | hs
      · exact .single (hup k hk)
      · exact (hbelow s hs _ hkey).tail (hup k hk)

/-- Owners that are alive stay alive when live entries stay as they are. -/
theorem OwnerLive.mono {owner : RuntimeOwnerRelation} (h : t.OwnerLive owner)
    (hkept : ∀ id e, t.entry id = some e → e.lifecycle = .Live → t'.entry id = some e) :
    t'.OwnerLive owner := by
  induction h with
  | root h => exact .root h
  | owned names holds same_kind live _ ih =>
    exact .owned names ⟨hkept _ _ holds.1 live, holds.2⟩ same_kind live ih

/-- All owners above are live, also in a graph that only agrees on live entries. -/
theorem OwnerLive.above {owner : RuntimeOwnerRelation} (h : t.OwnerLive owner)
    {graph : ObjectKey → Option ObjectKey}
    (hgraph : ∀ k e, t.Holds k e → e.lifecycle = .Live → graph k = e.owner.key)
    {k above : ObjectKey}
    (hkey : owner.key = some k) (hup : Within graph k above) :
    ∃ e, t.Holds above e ∧ e.lifecycle = .Live := by
  induction h generalizing k with
  | root h =>
    rw [key, h] at hkey
    cases hkey
  | @owned owner kind k' e names holds same_kind live _ ih =>
    rw [key, names] at hkey
    cases hkey
    rcases ReflTransGen.cases_head hup with rfl | ⟨next, hnext, hrest⟩
    · exact ⟨e, holds, live⟩
    · rw [ChildOf, hgraph _ e holds live] at hnext
      exact ih hnext hrest

variable {generation : AidlObjectGeneration} {changed : List RuntimeObjectEntry}
  {targets : List ObjectKey} {root : ObjectKey} {next : NextLifecycle}

/-! ## Writing entries -/

theorem entry_put (t : RuntimeObjectTable) (e : RuntimeObjectEntry) (id : AidlObjectId) :
    (t.put e).entry id = if id = e.object_id then some e else t.entry id :=
  ObjectEntries.get_insert ..

/-- Writing entries does not read or change the obligations. -/
theorem write_entries_eq (t : RuntimeObjectTable) (changed : List RuntimeObjectEntry) :
    t.write_entries changed =
      { t with entries := changed.foldl ObjectEntries.insert t.entries } := by
  induction changed generalizing t with
  | nil => rfl
  | cons first rest ih => exact ih (t.put first)

/-- Entries are written under their ids, when there are no two for one id. -/
theorem entry_write_entries
    (honce : ∀ a ∈ changed, ∀ b ∈ changed, a.object_id = b.object_id → a = b) :
    (∀ e ∈ changed, (t.write_entries changed).entry e.object_id = some e) ∧
      ∀ id, (∀ e ∈ changed, e.object_id ≠ id) →
        (t.write_entries changed).entry id = t.entry id := by
  induction changed generalizing t with
  | nil => exact ⟨fun _ he => (nomatch he), fun id _ => rfl⟩
  | cons first rest ih =>
    have hrest := fun a ha b hb =>
      honce a (mem_cons_of_mem _ ha) b (mem_cons_of_mem _ hb)
    obtain ⟨hin, hout⟩ := ih hrest
    refine ⟨fun e he => ?_, fun id hid => ?_⟩
    · by_cases hlater : ∃ e' ∈ rest, e'.object_id = e.object_id
      · obtain ⟨e', he', hsame⟩ := hlater
        have heq := honce e' (mem_cons_of_mem _ he') e he hsame
        rw [← heq]
        exact hin e' he'
      · rcases mem_cons.mp he with rfl | he
        · refine (hout _ fun e' he' hsame => hlater ⟨e', he', hsame⟩).trans ?_
          rw [entry_put, if_pos rfl]
        · exact absurd ⟨e, he, rfl⟩ hlater
    · refine (hout id fun e he => hid e (mem_cons_of_mem _ he)).trans ?_
      rw [entry_put, if_neg (hid first mem_cons_self).symm]

/-! ## The targets of a cascade -/

/-- The targets are the handles of the subtree, and all of them are in the table. -/
structure Targets (t : RuntimeObjectTable) (root : ObjectKey) (targets : List ObjectKey) :
    Prop where
  mem : ∀ k, k ∈ targets ↔ Within t.parent k root
  held : ∀ k ∈ targets, ∃ e, t.Holds k e

theorem holds_of_checked (h : t.entry_checked_any id generation = .ok e) :
    t.Holds (id, generation) e := by
  unfold entry_checked_any at h
  split at h
  · cases h
  split at h
  · cases h
  · cases h
    exact ⟨by assumption, not_not.mp (by assumption)⟩

theorem checked_of_holds (h : t.Holds k e) : t.entry_checked_any k.1 k.2 = .ok e := by
  unfold entry_checked_any
  rw [h.1]
  exact if_neg (not_not_intro h.2)

theorem targets_of_descendants {keys : List ObjectKey} (hroot : t.Holds (id, generation) e)
    (h : t.descendant_object_keys id generation = some keys) :
    Targets t (id, generation) (keys ++ [(id, generation)]) := by
  have hmem : ∀ k, k ∈ keys ++ [(id, generation)] ↔ Within t.parent k (id, generation) := by
    intro k
    rw [mem_append, mem_singleton, mem_descend t.children_owned_keys h, or_comm]
    exact within_iff.symm
  refine ⟨hmem, fun k hk => ?_⟩
  rcases ReflTransGen.cases_head ((hmem k).mp hk) with rfl | ⟨owner, howner, -⟩
  · exact ⟨e, hroot⟩
  · obtain ⟨e', he', -⟩ := parent_eq_some.mp howner
    exact ⟨e', he'⟩

/-- The entries that go on, with their next lifecycle. -/
def changes (t : RuntimeObjectTable) (next : NextLifecycle) (targets : List ObjectKey) :
    List RuntimeObjectEntry :=
  targets.filterMap fun k => (t.entry k.1).bind fun e =>
    (next e.lifecycle).map fun lifecycle => { e with lifecycle }

theorem changes_cons (h : t.entry k.1 = some e) :
    t.changes next (k :: targets) =
      ((next e.lifecycle).map ({ e with lifecycle := · })).toList ++ t.changes next targets := by
  rw [changes, filterMap_cons, h, Option.bind_some]
  cases next e.lifecycle <;> rfl

theorem mem_changes (h : Targets t root targets) {e' : RuntimeObjectEntry} :
    e' ∈ t.changes next targets ↔ ∃ e lifecycle, t.Holds e.key e ∧ Within t.parent e.key root ∧
      next e.lifecycle = some lifecycle ∧ e' = { e with lifecycle } := by
  rw [changes, mem_filterMap]
  constructor
  · rintro ⟨k, hk, hchange⟩
    obtain ⟨e, he, hnext⟩ := Option.bind_eq_some_iff.mp hchange
    obtain ⟨lifecycle, hlifecycle, rfl⟩ := Option.map_eq_some_iff.mp hnext
    obtain ⟨held, hheld⟩ := h.held k hk
    have hsame : held = e := Option.some.inj (hheld.1.symm.trans he)
    subst hsame
    obtain rfl := hheld.key_eq
    exact ⟨held, lifecycle, hheld, (h.mem _).mp hk, hlifecycle, rfl⟩
  · rintro ⟨e, lifecycle, hheld, hwithin, hlifecycle, rfl⟩
    refine ⟨e.key, (h.mem _).mpr hwithin, ?_⟩
    rw [hheld.1, Option.bind_some, hlifecycle]
    rfl

/-- The loop of a cascade that ends returns the changes, and every target goes on or is at its
end. -/
theorem collect_cascade.spec (h : t.collect_cascade root next targets = .ok changed) :
    changed = t.changes next targets ∧
      ∀ k ∈ targets, ∀ e, t.Holds k e → (next e.lifecycle).isSome ∨ e.lifecycle.is_terminal := by
  induction targets generalizing changed with
  | nil =>
    cases h
    exact ⟨rfl, nofun⟩
  | cons target rest ih =>
    unfold collect_cascade at h
    split at h
    · cases h
    rename_i found hfound
    have hholds := holds_of_checked hfound
    have hentry : t.entry target.1 = some found := hholds.1
    split at h
    · rename_i lifecycle hlifecycle
      cases hrest : t.collect_cascade root next rest with
      | error error =>
        rw [hrest] at h
        cases h
      | ok more =>
        rw [hrest] at h
        cases h
        obtain ⟨rfl, hgoes⟩ := ih hrest
        refine ⟨?_, fun k hk e he => ?_⟩
        · rw [changes_cons hentry, hlifecycle]
          rfl
        · rcases mem_cons.mp hk with rfl | hk
          · rw [he.unique hholds, hlifecycle]
            exact .inl rfl
          · exact hgoes k hk e he
    · rename_i hnone
      split at h
      · rename_i hend
        obtain ⟨rfl, hgoes⟩ := ih h
        refine ⟨?_, fun k hk e he => ?_⟩
        · rw [changes_cons hentry, hnone]
          rfl
        · rcases mem_cons.mp hk with rfl | hk
          · rw [he.unique hholds]
            exact .inr hend.1
          · exact hgoes k hk e he
      · cases h

/-! ## Cascades -/

/-- The lifecycle that a cascade leaves. -/
def after (next : NextLifecycle) (e : RuntimeObjectEntry) : RuntimeObjectEntry :=
  { e with lifecycle := (next e.lifecycle).getD e.lifecycle }

/-- A cascade from `t` to `t'`: the entries in the subtree of the root get their next lifecycle, or
are at their end; all others are as they were. -/
structure Cascade (t t' : RuntimeObjectTable) (root : ObjectKey) (next : NextLifecycle) : Prop where
  inside : ∀ id e, t.entry id = some e → Within t.parent e.key root →
    t'.entry id = some (after next e)
  outside : ∀ id e, t.entry id = some e → ¬ Within t.parent e.key root → t'.entry id = some e
  absent : ∀ id, t.entry id = none → t'.entry id = none
  goes : ∀ id e, t.entry id = some e → Within t.parent e.key root →
    (next e.lifecycle).isSome ∨ e.lifecycle.is_terminal

/-- The changed entries are those of the subtree that go on. -/
def ChangedBy (t : RuntimeObjectTable) (root : ObjectKey) (next : NextLifecycle)
    (changed : List RuntimeObjectEntry) : Prop :=
  ∀ e', e' ∈ changed ↔ ∃ e lifecycle, t.Holds e.key e ∧ Within t.parent e.key root ∧
    next e.lifecycle = some lifecycle ∧ e' = { e with lifecycle }

theorem changes_once (next : NextLifecycle) (h : Targets t root targets) :
    ∀ a ∈ t.changes next targets, ∀ b ∈ t.changes next targets,
      a.object_id = b.object_id → a = b := by
  intro a ha b hb hsame
  obtain ⟨e, l, he, -, hl, rfl⟩ := (mem_changes h).mp ha
  obtain ⟨e', l', he', -, hl', rfl⟩ := (mem_changes h).mp hb
  have hentry : t.entry e.object_id = some e := he.1
  have hentry' : t.entry e'.object_id = some e' := he'.1
  rw [hsame, hentry'] at hentry
  cases hentry
  rw [hl] at hl'
  cases hl'
  rfl

theorem cascade_of_changes (h : Targets t root targets)
    (hgoes : ∀ k ∈ targets, ∀ e, t.Holds k e → (next e.lifecycle).isSome ∨ e.lifecycle.is_terminal)
    (hwritten : t'.entries = (t.write_entries (t.changes next targets)).entries) :
    Cascade t t' root next := by
  obtain ⟨hin, hout⟩ := entry_write_entries (changes_once next h)
  have hentry (id : AidlObjectId) :
      t'.entry id = (t.write_entries (t.changes next targets)).entry id :=
    congrArg (ObjectEntries.get · id) hwritten
  -- an entry that is not among the changes is not written
  have hkept : ∀ id e, t.entry id = some e →
      (Within t.parent e.key root → next e.lifecycle = none) → t'.entry id = some e := by
    intro id e he hnone
    rw [hentry, hout id ?_, he]
    rintro e' he' rfl
    obtain ⟨old, l, hold, hwithin, hl, rfl⟩ := (mem_changes h).mp he'
    have hsame : e = old := Option.some.inj (he.symm.trans hold.1)
    subst hsame
    rw [hnone hwithin] at hl
    cases hl
  refine ⟨fun id e he hwithin => ?_, fun id e he hnot => hkept id e he fun h => absurd h hnot,
    fun id he => ?_, fun id e he hwithin => ?_⟩
  · cases hnext : next e.lifecycle with
    | none =>
      rw [hkept id e he fun _ => hnext, after, hnext]
      rfl
    | some lifecycle =>
      have hmem : { e with lifecycle } ∈ t.changes next targets :=
        (mem_changes h).mpr ⟨e, lifecycle, holds_of_entry he, hwithin, hnext, rfl⟩
      have hwrite := hin _ hmem
      rw [hentry, ← ObjectEntries.object_id_of_get he, after, hnext]
      exact hwrite
  · rw [hentry, hout id ?_, he]
    rintro e' he' rfl
    obtain ⟨old, l, hold, -, -, rfl⟩ := (mem_changes h).mp he'
    have hfound : t.entry old.object_id = some old := hold.1
    rw [hfound] at he
    cases he
  · exact hgoes e.key ((h.mem _).mpr hwithin) e (holds_of_entry he)

theorem plan_cascade.spec (h : t.plan_cascade id generation next = some (.ok changed)) :
    ChangedBy t (id, generation) next changed ∧
      ∀ txn, Cascade t ({ t with object_close_txn := txn }.write_entries changed) (id, generation)
        next := by
  unfold plan_cascade at h
  split at h
  · cases h
  rename_i root hroot
  split at h
  · cases h
  obtain ⟨keys, hkeys, hcollect⟩ := Option.map_eq_some_iff.mp h
  have htargets := targets_of_descendants (holds_of_checked hroot) hkeys
  obtain ⟨rfl, hgoes⟩ := collect_cascade.spec hcollect
  refine ⟨fun e' => mem_changes htargets, fun txn => cascade_of_changes htargets hgoes ?_⟩
  rw [write_entries_eq, write_entries_eq]

/-- The call is refused, or it goes on as said. -/
def RefusedOr {α : Type} (t : RuntimeObjectTable) (answer : Answer α)
    (goesOn : RuntimeObjectTable → α → Prop) : Prop :=
  (∃ error, answer = some (t, .error error)) ∨ ∃ t' a, answer = some (t', .ok a) ∧ goesOn t' a

/-- What holds before a call that may be refused, and where it goes on, holds behind it. -/
theorem RefusedOr.keeps {α : Type} {answer : Answer α} {goesOn : RuntimeObjectTable → α → Prop}
    {P : RuntimeObjectTable → Prop} (h : RefusedOr t answer goesOn) (ht : P t)
    (hgoes : ∀ t' a, goesOn t' a → P t') : ∃ t', answer.map Prod.fst = some t' ∧ P t' := by
  rcases h with ⟨error, rfl⟩ | ⟨t', a, rfl, h⟩
  · exact ⟨t, rfl, ht⟩
  · exact ⟨t', rfl, hgoes t' a h⟩

/-! ## Quarantine -/

def quarantine_next (l : RuntimeObjectLifecycle) : Option RuntimeObjectLifecycle :=
  if l.is_terminal then none else some .Quarantined

/-- The loop of a quarantine does not read an entry that it wrote. -/
theorem quarantine_targets.spec (hnodup : targets.Nodup) (hheld : ∀ k ∈ targets, ∃ e, t.Holds k e) :
    t.quarantine_targets targets =
      (t.write_entries (t.changes quarantine_next targets),
        .ok (t.changes quarantine_next targets)) := by
  induction targets generalizing t with
  | nil => rfl
  | cons target rest ih =>
    obtain ⟨hnotin, hrest⟩ := nodup_cons.mp hnodup
    obtain ⟨e, he⟩ := hheld target mem_cons_self
    have hentry : t.entry target.1 = some e := he.1
    unfold quarantine_targets
    rw [checked_of_holds he]
    dsimp only
    split_ifs with hend
    · rw [changes_cons hentry, quarantine_next, if_pos hend]
      exact ih hrest fun k hk => hheld k (mem_cons_of_mem _ hk)
    · -- the other targets have other ids
      have hother : ∀ k ∈ rest,
          (t.put { e with lifecycle := .Quarantined }).entry k.1 = t.entry k.1 := by
        intro k hk
        rw [entry_put]
        refine if_neg fun hid => hnotin ?_
        obtain ⟨e', he'⟩ := hheld k (mem_cons_of_mem _ hk)
        have hid : k.1 = target.1 := hid.trans (congrArg Prod.fst he.key_eq)
        have hsame : e' = e := Option.some.inj (he'.1.symm.trans (hid ▸ hentry))
        rw [← he.key_eq, ← hsame, he'.key_eq]
        exact hk
      have hchanges : (t.put { e with lifecycle := .Quarantined }).changes quarantine_next rest =
          t.changes quarantine_next rest := by
        refine filterMap_congr fun k hk => ?_
        rw [hother k hk]
      rw [ih hrest fun k hk => ?_, hchanges]
      · rw [changes_cons hentry, quarantine_next, if_neg hend]
        rfl
      · obtain ⟨e', he'⟩ := hheld k (mem_cons_of_mem _ hk)
        exact ⟨e', (hother k hk).trans he'.1, he'.2⟩

/-- A quarantine of an object that is not there is refused, and one of an object that is there is a
cascade. -/
theorem quarantine_cascade.cases (hacyclic : Acyclic t.parent) (id : AidlObjectId)
    (generation : AidlObjectGeneration) :
    RefusedOr t (t.quarantine_cascade id generation) fun t' changed =>
      t'.object_close_txn = t.object_close_txn ∧
      ChangedBy t (id, generation) quarantine_next changed ∧
      Cascade t t' (id, generation) quarantine_next := by
  unfold quarantine_cascade
  split
  · exact .inl ⟨_, rfl⟩
  rename_i hchecked
  have hroot := holds_of_checked hchecked
  obtain ⟨keys, hkeys, hnodup⟩ := descendant_object_keys.spec hacyclic id generation
  have htargets := targets_of_descendants hroot hkeys
  have hlast : (keys ++ [(id, generation)]).Nodup := by
    refine nodup_append.mpr ⟨hnodup, nodup_singleton _, ?_⟩
    rintro k hk k' hk' rfl
    rw [mem_singleton.mp hk'] at hk
    exact hacyclic _ ((mem_descend t.children_owned_keys hkeys).mp hk)
  rw [hkeys, Option.map_some, quarantine_targets.spec hlast htargets.held]
  refine .inr ⟨_, _, rfl, ?_, fun e' => mem_changes htargets,
    cascade_of_changes htargets (fun k _ e _ => ?_) rfl⟩
  · rw [write_entries_eq]
  · unfold quarantine_next
    split
    · exact .inr (by assumption)
    · exact .inl rfl

/-! ## What a call does -/

/-- The lifecycles of a cascade: an end is kept, nothing becomes live or prepared, and either all
next lifecycles are ends or none is. -/
structure CascadeKind (next : NextLifecycle) : Prop where
  keeps_end : ∀ l, l.is_terminal → next l = none
  not_live : ∀ l l', next l = some l' → l' ≠ .Live ∧ l' ≠ .Prepared
  uniform : (∀ l l', next l = some l' → l'.is_terminal) ∨
    ∀ l l', next l = some l' → l'.is_terminal = false

variable (step : tuner_hal2_resource_ledger.CleanupStep)

/-- A cascade that has one lifecycle for all. -/
theorem cascade_kind_of (last : RuntimeObjectLifecycle) (hlast : last ≠ .Live ∧ last ≠ .Prepared)
    (hend : ∀ l, l.is_terminal → next l = none) (hnext : ∀ l l', next l = some l' → l' = last) :
    CascadeKind next where
  keeps_end := hend
  not_live l l' h := hnext l l' h ▸ hlast
  uniform := by
    cases hterminal : last.is_terminal
    · exact .inr fun l l' h => hnext l l' h ▸ hterminal
    · exact .inl fun l l' h => hnext l l' h ▸ hterminal

theorem cascade_kind_closing : CascadeKind (closing_next step) :=
  cascade_kind_of (.Closing step) ⟨nofun, nofun⟩
    (fun l h => by cases l <;> first | rfl | cases h)
    fun l l' h => by cases l <;> cases h <;> rfl

theorem cascade_kind_finalized {last : RuntimeObjectLifecycle}
    (hlast : last ≠ .Live ∧ last ≠ .Prepared) : CascadeKind (finalized last) :=
  cascade_kind_of last hlast (fun l h => by cases l <;> first | rfl | cases h)
    fun l l' h => by cases l <;> cases h <;> rfl

theorem cascade_kind_quarantine : CascadeKind quarantine_next :=
  cascade_kind_of .Quarantined ⟨nofun, nofun⟩ (fun l h => if_pos h)
    fun l l' h => by cases l <;> cases h <;> rfl

/-- What one call does to the entries, when it takes none out. -/
inductive TableStep (t t' : RuntimeObjectTable) : Prop
  | same (h : t'.entries = t.entries)
  | inserted (entry : RuntimeObjectEntry) (h : t'.entries = t.entries.insert entry)
      (fresh : entry.lifecycle = .Live ∨ entry.lifecycle = .Prepared)
      (alone : t.duplicate_of entry = none) (owner : t.OwnerLive entry.owner)
  | committed (id : AidlObjectId) (entry : RuntimeObjectEntry) (found : t.entry id = some entry)
      (prepared : entry.lifecycle = .Prepared)
      (h : t'.entries = t.entries.insert { entry with lifecycle := .Live })
  | cascade (root : ObjectKey) (next : NextLifecycle)
      (kind : CascadeKind next) (h : Cascade t t' root next)

/-- A call answers with a step of the entries, and an error answers with the same entries. -/
def Answers {α : Type} (t : RuntimeObjectTable)
    (answer : RuntimeObjectTable × TableResult α) : Prop :=
  TableStep t answer.1 ∧ ∀ error, answer.2 = .error error → answer.1.entries = t.entries

theorem answers_error {α : Type} (t : RuntimeObjectTable) (error : RuntimeObjectTableError) :
    Answers t (t, (.error error : TableResult α)) :=
  ⟨.same rfl, fun _ _ => rfl⟩

section

variable (hacyclic : Acyclic t.parent) (id : AidlObjectId) (generation : AidlObjectGeneration)
include hacyclic

/-- An insert is refused, or it puts the entry in and clears what was owed for its id. -/
theorem insert_with_lifecycle.cases (entry : RuntimeObjectEntry)
    (lifecycle : RuntimeObjectLifecycle) :
    RefusedOr t (t.insert_with_lifecycle entry lifecycle) fun t' _ =>
      t' = ⟨t.entries.insert { entry with lifecycle },
        t.object_close_txn.clear_obligation entry.object_id⟩ ∧
      t.duplicate_of { entry with lifecycle } = none ∧ t.OwnerLive entry.owner := by
  unfold insert_with_lifecycle
  cases halone : t.duplicate_of entry with
  | some error => exact .inl ⟨error, rfl⟩
  | none =>
    obtain ⟨checked, hchecked⟩ := Option.isSome_iff_exists.mp
      (ensure_owner_live_for.returns hacyclic entry.object_id entry.owner)
    rw [hchecked]
    cases checked with
    | error error => exact .inl ⟨error, rfl⟩
    | ok _ => exact .inr ⟨_, _, rfl, rfl, halone, owner_live_of_ensure hchecked⟩

theorem plan_cascade.returns (next : NextLifecycle) :
    ∃ plan, t.plan_cascade id generation next = some plan := by
  unfold plan_cascade
  split
  · exact ⟨_, rfl⟩
  split
  · exact ⟨_, rfl⟩
  obtain ⟨keys, hkeys, -⟩ := descendant_object_keys.spec hacyclic id generation
  rw [hkeys]
  exact ⟨_, rfl⟩

/-- A close is refused, or it is a cascade under a cleanup authority. -/
theorem begin_close.cases (step : tuner_hal2_resource_ledger.CleanupStep) :
    RefusedOr t (t.begin_close_cascade_with_cleanup_authority id generation step) fun t' a =>
      t'.object_close_txn = (t.object_close_txn.issue_cleanup_authority id generation).1 ∧
      ChangedBy t (id, generation) (closing_next step) a.1 ∧
      Cascade t t' (id, generation) (closing_next step) := by
  unfold begin_close_cascade_with_cleanup_authority
  split
  · exact .inl ⟨_, rfl⟩
  obtain ⟨plan, hplan⟩ := plan_cascade.returns hacyclic id generation (closing_next step)
  rw [hplan, Option.map_some]
  cases plan with
  | error error => exact .inl ⟨error, rfl⟩
  | ok changed =>
    dsimp only
    split
    · exact .inl ⟨_, rfl⟩
    rename_i txn authority hissue
    obtain ⟨hchanged, hcascade⟩ := plan_cascade.spec hplan
    refine .inr ⟨_, (changed, authority), rfl, ?_, hchanged, hcascade _⟩
    rw [write_entries_eq, hissue]

/-- The end of a close is refused, or it is a cascade. -/
theorem finalize_cascade.cases (lifecycle : RuntimeObjectLifecycle) :
    RefusedOr t (t.finalize_cascade id generation lifecycle) fun t' changed =>
      t'.object_close_txn = t.object_close_txn ∧
      ChangedBy t (id, generation) (finalized lifecycle) changed ∧
      Cascade t t' (id, generation) (finalized lifecycle) := by
  unfold finalize_cascade
  obtain ⟨plan, hplan⟩ := plan_cascade.returns hacyclic id generation (finalized lifecycle)
  rw [hplan]
  cases plan with
  | error error => exact .inl ⟨error, rfl⟩
  | ok changed =>
    obtain ⟨hchanged, hcascade⟩ := plan_cascade.spec hplan
    refine .inr ⟨_, changed, rfl, ?_, hchanged, hcascade t.object_close_txn⟩
    rw [write_entries_eq]

end

/-- An attempt that is current before a cascade is current after it, so that its end is taken. -/
theorem settle_attempt_ok {attempt : CloseCleanupAttemptKey}
    (hcurrent : t.object_close_txn.attempt_is_current id generation attempt)
    (lifecycle : RuntimeObjectLifecycle) (complete : Bool) (changed : List RuntimeObjectEntry) :
    t.settle_attempt id generation attempt lifecycle complete changed =
      ({ t with object_close_txn :=
          (t.object_close_txn.finish_cleanup_attempt id generation attempt complete).1 },
        .ok changed) := by
  unfold settle_attempt ObjectCloseTxn.finish_cleanup_attempt
  rw [if_neg (not_not_intro hcurrent)]
  cases complete with
  | true => rfl
  | false =>
    unfold ObjectCloseTxn.attempt_is_current at hcurrent
    cases hobligation : t.object_close_txn.obligations.get id with
    | none =>
      rw [hobligation] at hcurrent
      cases hcurrent
    | some obligation => rfl

section

variable (hacyclic : Acyclic t.parent) (id : AidlObjectId) (generation : AidlObjectGeneration)
include hacyclic

/-- The end of an attempt is refused, or it is the end of the close and of the attempt. -/
theorem finish_attempt.cases (attempt : CloseCleanupAttemptKey)
    (outcome : CloseCleanupAttemptOutcome) :
    RefusedOr t (t.finish_close_cleanup_attempt id generation attempt outcome) fun t' _ =>
      ∃ next complete, t'.object_close_txn =
        (t.object_close_txn.finish_cleanup_attempt id generation attempt complete).1 ∧
      CascadeKind next ∧ Cascade t t' (id, generation) next := by
  unfold finish_close_cleanup_attempt
  split
  · exact .inl ⟨_, rfl⟩
  rename_i root hroot
  by_cases hcurrent : t.object_close_txn.attempt_is_current id generation attempt
  · rw [if_neg (not_not_intro hcurrent)]
    have hsettled : ∀ {lifecycle : RuntimeObjectLifecycle} (complete : Bool) {answer},
        (∀ t error, answer (t, .error error) = (t, .error error)) →
        (∀ t changed, answer (t, .ok changed) =
          t.settle_attempt id generation attempt root.lifecycle complete changed) →
        CascadeKind (finalized lifecycle) →
        RefusedOr t ((t.finalize_cascade id generation lifecycle).map answer) fun t' _ =>
          ∃ next complete, t'.object_close_txn =
            (t.object_close_txn.finish_cleanup_attempt id generation attempt complete).1 ∧
          CascadeKind next ∧ Cascade t t' (id, generation) next := by
      intro lifecycle complete answer herror hok hkind
      rcases finalize_cascade.cases hacyclic id generation lifecycle with
        ⟨error, heq⟩ | ⟨t', changed, heq, htxn, -, hcascade⟩
      · rw [heq, Option.map_some, herror]
        exact .inl ⟨error, rfl⟩
      · have hcurrent' : t'.object_close_txn.attempt_is_current id generation attempt :=
          htxn ▸ hcurrent
        rw [heq, Option.map_some, hok, settle_attempt_ok hcurrent']
        exact .inr ⟨_, changed, rfl, _, complete, by rw [htxn], hkind, { hcascade with }⟩
    cases outcome with
    | Complete =>
      exact hsettled true (fun _ _ => rfl) (fun _ _ => rfl) (cascade_kind_finalized ⟨nofun, nofun⟩)
    | Pending step =>
      exact hsettled false (fun _ _ => rfl) (fun _ _ => rfl) (cascade_kind_finalized ⟨nofun, nofun⟩)
  · rw [if_pos hcurrent]
    exact .inl ⟨_, rfl⟩

end

theorem commit_prepared.answers (t : RuntimeObjectTable) (id : AidlObjectId)
    (generation : AidlObjectGeneration) : Answers t (t.commit_prepared id generation) := by
  unfold commit_prepared
  split
  · exact answers_error t _
  rename_i e he
  split
  · exact answers_error t _
  · exact ⟨.committed id e (holds_of_checked he).1 (not_not.mp (by assumption)) rfl,
      nofun⟩

theorem begin_attempt.answers (t : RuntimeObjectTable) (id : AidlObjectId)
    (generation : AidlObjectGeneration) (authority : CloseCleanupAuthorityKey) :
    Answers t (t.begin_close_cleanup_attempt id generation authority) := by
  unfold begin_close_cleanup_attempt
  split
  · exact answers_error t _
  split
  iterate 2
    split
    · exact answers_error t _
    · exact ⟨.same rfl, fun _ _ => rfl⟩
  · exact answers_error t _

/-- The call takes no entry out of the table. -/
def Keeps : TableCall → Prop
  | .remove _ _ | .clear => False
  | _ => True

/-- A call on a table without a cycle returns, and makes a step. -/
theorem apply_step (hacyclic : Acyclic t.parent) {call : TableCall} (hkeeps : Keeps call) :
    ∃ t', call.apply t = some t' ∧ TableStep t t' := by
  have hinsert (entry : RuntimeObjectEntry) {lifecycle : RuntimeObjectLifecycle}
      (hfresh : lifecycle = .Live ∨ lifecycle = .Prepared) :
      ∃ t', (t.insert_with_lifecycle entry lifecycle).map Prod.fst = some t' ∧ TableStep t t' := by
    refine (insert_with_lifecycle.cases hacyclic entry lifecycle).keeps (.same rfl) ?_
    rintro _ - ⟨rfl, alone, owner⟩
    exact .inserted { entry with lifecycle } rfl hfresh alone owner
  have hfinalize (id : AidlObjectId) (generation : AidlObjectGeneration)
      {lifecycle : RuntimeObjectLifecycle} (hkind : CascadeKind (finalized lifecycle)) :
      ∃ t', (t.finalize_cascade id generation lifecycle).map Prod.fst = some t' ∧ TableStep t t' :=
    (finalize_cascade.cases hacyclic id generation lifecycle).keeps (.same rfl)
      fun _ _ h => .cascade _ _ hkind h.2.2
  cases call with
  | insert entry => exact hinsert entry (.inl rfl)
  | insert_prepared entry => exact hinsert entry (.inr rfl)
  | commit_prepared id generation => exact ⟨_, rfl, (commit_prepared.answers t id generation).1⟩
  | remove | clear => exact hkeeps.elim
  | begin_close id generation step =>
    exact (begin_close.cases hacyclic id generation step).keeps (.same rfl)
      fun _ _ h => .cascade _ _ (cascade_kind_closing step) h.2.2
  | begin_attempt id generation authority =>
    exact ⟨_, rfl, (begin_attempt.answers t id generation authority).1⟩
  | finish_attempt id generation attempt outcome =>
    exact (finish_attempt.cases hacyclic id generation attempt outcome).keeps (.same rfl)
      fun _ _ ⟨_, _, _, hkind, hcascade⟩ => .cascade _ _ hkind hcascade
  | mark_cleanup_failed id generation step =>
    exact hfinalize id generation (cascade_kind_finalized ⟨nofun, nofun⟩)
  | commit_close id generation =>
    exact hfinalize id generation (cascade_kind_finalized ⟨nofun, nofun⟩)
  | quarantine id generation =>
    exact (quarantine_cascade.cases hacyclic id generation).keeps (.same rfl)
      fun _ _ h => .cascade _ _ cascade_kind_quarantine h.2.2

end tuner_hal2_service_runtime.RuntimeObjectTable
