-- The laws of the rail leases: the counter of a rail tells how many leases there
-- are on its LNBs, the assignments of the frontends are those that are leased, and
-- no call finds them in disagreement. The guards look for a lease on the LNB that
-- is asked for, so that a rail is protected as a whole where it has one LNB alone.
import TvStack.LnbRegistry
import TvStack.RefCounts

open List Machines RefCounts Words

namespace tuner_hal2_service_runtime

open tuner_hal2_common tuner_hal2_device tuner_hal2_lnb LnbRegistry RuntimeRegistry

/-- The LNBs that something holds on to, each as often as it is held. -/
def held_by (leases : OrdMap Int LnbAssignmentLease) (pending : OrdMap Nat (Int × Int))
    (fixed : OrdMap Int Int) : List Int :=
  leases.values.map (·.lnb_id) ++ (pending.values.map Prod.snd ++ fixed.values)

/-- The tokens in use. -/
def tokens_of (prepared : OrdMap Nat (Int × Int)) (leases : OrdMap Int LnbAssignmentLease)
    (pending : OrdMap Nat (Int × Int)) : List Nat :=
  prepared.items.map Prod.fst ++ (leases.values.map (·.token) ++ pending.items.map Prod.fst)

namespace LnbRegistry

def held (r : LnbRegistry) : List Int :=
  held_by r.assignment_leases r.pending_assignment_cleanup r.fixed_power_leases

def tokens (r : LnbRegistry) : List Nat :=
  tokens_of r.prepared_assignment_leases r.assignment_leases r.pending_assignment_cleanup

/-- The rail counters agree with the leases, every LNB that is named is registered, and no token
is used twice. -/
structure Sound (r : LnbRegistry) : Prop where
  keyed : ∀ id, (r.physical_keys.get id).isSome ↔ (r.entries.get id).isSome
  running : ∀ id, (r.runtimes.get id).isSome ↔ (r.entries.get id).isSome
  counts : Counts r.physical_keys.get r.held r.rail_reference_counts
  prepared : ∀ token frontend_id lnb_id,
    r.prepared_assignment_leases.get token = some (frontend_id, lnb_id) →
      (r.physical_keys.get lnb_id).isSome
  fresh : ∀ token ∈ r.tokens, token ≤ r.next_assignment_lease_token
  nodup : r.tokens.Nodup

end LnbRegistry

structure RuntimeRegistry.Sound (s : RuntimeRegistry) : Prop where
  lnbs : s.lnb_registry.Sound
  bound : ∀ frontend_id, s.frontend_lnb_bindings.get frontend_id =
    (s.lnb_registry.assignment_leases.get frontend_id).map (·.lnb_id)

/-- The same LNBs on the same rails, in the states that they were in. -/
structure SameLnbs (s s' : RuntimeRegistry) : Prop where
  keys : s'.lnb_registry.physical_keys = s.lnb_registry.physical_keys
  runtimes : s'.lnb_registry.runtimes = s.lnb_registry.runtimes

/-- The errors of leases that do not fit together. -/
def lease_violations : List HalError :=
  ["LNB physical rail key is missing while retaining a lease",
    "LNB physical rail key is missing while releasing a lease",
    "LNB physical rail reference count is missing",
    "LNB physical rail reference count underflow",
    "fixed-power lease lost its physical LNB rail key",
    "fixed-power lease lost its rail reference count",
    "fixed-power rail reference count underflow",
    "frontend/LNB relation and assignment lease are inconsistent",
    "frontend/LNB release found inconsistent relation and lease state"].map violation

/-! ## What is held -/

section Held

variable {α : Type} {xs ys ys' zs zs' : List α} {x : α}

theorem perm_second (h : ys.Perm (x :: ys')) : (xs ++ (ys ++ zs)).Perm (x :: (xs ++ (ys' ++ zs))) :=
  ((h.append_right zs).append_left xs).trans perm_middle

theorem perm_third (h : zs.Perm (x :: zs')) : (xs ++ (ys ++ zs)).Perm (x :: (xs ++ (ys ++ zs'))) :=
  (((h.append_left ys).trans perm_middle).append_left xs).trans perm_middle

end Held

/-! ## The counters -/

section Counters

variable {r : LnbRegistry} {id : Int} {held : List Int}

theorem rail_counter_held (h : Counts r.physical_keys.get held r.rail_reference_counts)
    {key : String} (hkey : r.physical_keys.get id = some key) (missing_key missing_count : String) :
    r.rail_counter id missing_key missing_count =
      .ok (key, share r.physical_keys.get held key) := by
  unfold rail_counter
  rw [hkey]
  dsimp only
  rw [h.get hkey]

/-- A counter that can go up goes up with what is held. -/
theorem retain_rail_reference.cases (h : Counts r.physical_keys.get held r.rail_reference_counts)
    (hid : (r.physical_keys.get id).isSome) :
    r.retain_rail_reference id =
        .error (violation "LNB physical rail reference count overflow") ∨
      ∃ counts, r.retain_rail_reference id = .ok { r with rail_reference_counts := counts } ∧
        Counts r.physical_keys.get (id :: held) counts := by
  obtain ⟨key, hkey⟩ := Option.isSome_iff_exists.mp hid
  unfold retain_rail_reference
  rw [rail_counter_held h hkey]
  dsimp only
  unfold checked_add
  split
  · exact .inl rfl
  rename_i count hcount
  split at hcount
  · cases hcount
    exact .inr ⟨_, rfl, h.retain hkey⟩
  · cases hcount

/-- A counter goes down with what is held, and is never below. -/
theorem release_rail_reference.spec
    (h : Counts r.physical_keys.get (id :: held) r.rail_reference_counts) :
    ∃ counts, r.release_rail_reference id = .ok { r with rail_reference_counts := counts } ∧
      Counts r.physical_keys.get held counts := by
  obtain ⟨key, hkey⟩ := Option.isSome_iff_exists.mp (h.grouped id mem_cons_self)
  refine ⟨_, ?_, h.release hkey⟩
  unfold release_rail_reference
  rw [rail_counter_held h hkey, share_cons, if_pos hkey]
  rfl

end Counters

/-! ## The calls keep the registry sound -/

/-- The call leaves the registry sound and the LNBs alone, and its error is not one of leases that
do not fit. -/
structure Fine {α : Type} (s : RuntimeRegistry) (answer : RuntimeRegistry × HalResult α) :
    Prop where
  sound : answer.1.Sound
  same : SameLnbs s answer.1
  error : ∀ error, answer.2 = .error error → error ∉ lease_violations

section Steps

variable {r : LnbRegistry} {s s' : RuntimeRegistry}
  {α : Type} {token : Nat} {frontend_id lnb_id : Int}

theorem fine_ok {a : α} (h : s'.Sound) (hsame : SameLnbs s s') : Fine s (s', .ok a) :=
  ⟨h, hsame, nofun⟩

theorem fine_unchanged {a : α} (h : s.Sound) : Fine s (s, .ok a) :=
  fine_ok h ⟨rfl, rfl⟩

theorem fine_error {error : HalError} (h : s.Sound) (herror : error ∉ lease_violations) :
    Fine s (s, (.error error : HalResult α)) := by
  refine ⟨h, ⟨rfl, rfl⟩, fun e he => ?_⟩
  cases he
  exact herror

theorem RuntimeRegistry.Sound.on_lnbs (h : s.Sound) (hr : r.Sound)
    (hleases : r.assignment_leases = s.lnb_registry.assignment_leases) :
    RuntimeRegistry.Sound { s with lnb_registry := r } where
  lnbs := hr
  bound := by
    intro frontend_id
    rw [hleases]
    exact h.bound frontend_id

theorem on_runtime.sound (h : s.Sound) (id : Int)
    (step : LnbRuntime → LnbRuntime × LnbResult α) :
    (s.on_lnbs (s.lnb_registry.on_runtime id step)).1.Sound ∧
      (s.lnb_registry.on_runtime id step).1.physical_keys = s.lnb_registry.physical_keys := by
  unfold on_runtime
  split
  · exact ⟨h, rfl⟩
  rename_i runtime hruntime
  have hid : (s.lnb_registry.runtimes.get id).isSome := by
    rw [hruntime]
    rfl
  refine ⟨h.on_lnbs { h.lnbs with running := fun j => ?_ } rfl, rfl⟩
  rw [OrdMap.get_insert]
  split
  · rename_i heq
    subst heq
    exact iff_of_true rfl ((h.lnbs.running j).mp hid)
  · exact h.lnbs.running j

theorem register_frontend.sound (h : s.Sound) (entry : FrontendRegistryEntry) :
    (s.register_frontend entry).1.Sound ∧ (s.register_frontend entry).1.lnb_registry.physical_keys =
      s.lnb_registry.physical_keys := by
  unfold register_frontend
  split
  · exact ⟨h, rfl⟩
  · exact ⟨⟨h.lnbs, h.bound⟩, rfl⟩

theorem clear_assignment_state.sound (h : r.Sound) : r.clear_assignment_state.Sound where
  keyed := h.keyed
  running := h.running
  counts := h.counts.clear
  prepared := nofun
  fresh := nofun
  nodup := nodup_nil

theorem clear_frontends.sound (h : s.Sound) : s.clear_frontends.Sound where
  lnbs := clear_assignment_state.sound h.lnbs
  bound := fun _ => rfl

theorem clear_lnbs.sound (s : RuntimeRegistry) : s.clear_lnbs.Sound where
  lnbs :=
    { keyed := fun _ => Iff.rfl
      running := fun _ => Iff.rfl
      counts := counts_empty _ fun _ => rfl
      prepared := nofun
      fresh := nofun
      nodup := nodup_nil }
  bound := fun _ => rfl

/-- A new LNB is on its rail, and nothing holds it yet. -/
theorem register_lnb.sound (h : s.Sound) (entry : LnbRegistryEntry) :
    (s.register_lnb entry).1.Sound := by
  unfold register_lnb
  dsimp only
  split
  · exact h
  rename_i hnew
  rw [not_or] at hnew
  have hkey : s.lnb_registry.physical_keys.get entry.id = none := by
    have hnone := mt (h.lnbs.keyed entry.id).mp hnew.1
    simpa using hnone
  split
  · exact h
  refine ⟨⟨fun id => ?_, fun id => ?_, ?_, fun token frontend_id lnb_id hget => ?_,
    h.lnbs.fresh, h.lnbs.nodup⟩, h.bound⟩
  · simp only [OrdMap.get_insert]
    split
    · exact Iff.rfl
    · exact h.lnbs.keyed id
  · simp only [OrdMap.get_insert]
    split
    · exact Iff.rfl
    · exact h.lnbs.running id
  · refine h.lnbs.counts.join hkey ?_ (fun j hj => ?_) (fun key => FinMap.get_or_insert _ _ key)
    · exact (OrdMap.get_insert ..).trans (if_pos rfl)
    · exact (OrdMap.get_insert ..).trans (if_neg hj)
  · rw [OrdMap.get_insert]
    split
    · rfl
    · exact h.lnbs.prepared token frontend_id lnb_id hget

/-- The token that is given back is free. -/
theorem LnbRegistry.Sound.tokens_less (h : r.Sound) {tokens : List Nat}
    (hperm : r.tokens.Perm (token :: tokens)) :
    (∀ token ∈ tokens, token ≤ r.next_assignment_lease_token) ∧ tokens.Nodup := by
  constructor
  · intro other hother
    exact h.fresh other (hperm.mem_iff.mpr (mem_cons_of_mem token hother))
  · exact (nodup_cons.mp (hperm.nodup_iff.mp h.nodup)).2

theorem validate_lnb_assignment_target.spec {u : Unit}
    (h : s.validate_lnb_assignment_target frontend_id lnb_id = .ok u) :
    (s.lnb_registry.entries.get lnb_id).isSome := by
  unfold validate_lnb_assignment_target at h
  split at h
  · cases h
  split at h
  · cases h
  rename_i hentry
  rw [hentry]
  rfl

theorem validate_lnb_assignment_target.error {error : HalError}
    (h : s.validate_lnb_assignment_target frontend_id lnb_id = .error error) :
    error ∉ lease_violations := by
  unfold validate_lnb_assignment_target at h
  iterate 3
    split at h
    · cases h
      decide
  · cases h

theorem next_token {n : Nat} (h : (checked_add U64_MAX n 1).filter (· ≠ 0) = some token) :
    token = n + 1 := by
  have hsum := (Option.filter_eq_some_iff.mp h).1
  unfold checked_add at hsum
  split at hsum
  · exact (Option.some.inj hsum).symm
  · cases hsum

/-- A prepared lease has a token of its own. -/
theorem LnbRegistry.Sound.prepare (h : r.Sound) (frontend_id : Int)
    (hid : (r.entries.get lnb_id).isSome) :
    LnbRegistry.Sound
      { r with
        next_assignment_lease_token := r.next_assignment_lease_token + 1
        prepared_assignment_leases := r.prepared_assignment_leases.insert
          (r.next_assignment_lease_token + 1) (frontend_id, lnb_id) } := by
  have habsent : r.prepared_assignment_leases.get (r.next_assignment_lease_token + 1) = none := by
    rw [Option.eq_none_iff_forall_ne_some]
    intro x hx
    have hmem := mem_map_of_mem (f := Prod.fst) (r.prepared_assignment_leases.get_eq_some.mp hx)
    have hle := h.fresh _ (mem_append_left _ hmem)
    omega
  have hperm := (r.prepared_assignment_leases.insert_perm (r.next_assignment_lease_token + 1)
    (frontend_id, lnb_id)).map Prod.fst
  rw [OrdMap.erase_absent habsent] at hperm
  have htokens := hperm.append_right (r.assignment_leases.values.map (·.token) ++
    r.pending_assignment_cleanup.items.map Prod.fst)
  refine ⟨h.keyed, h.running, h.counts, fun token f l hget => ?_, fun token htoken => ?_, ?_⟩
  · rcases OrdMap.get_of_insert hget with ⟨-, ⟨⟩⟩ | hget
    · exact (h.keyed lnb_id).mpr hid
    · exact h.prepared token f l hget
  · rcases mem_cons.mp (htokens.mem_iff.mp htoken) with rfl | hold
    · exact le_rfl
    · exact (h.fresh token hold).trans (Nat.le_succ _)
  · refine htokens.nodup_iff.mpr (nodup_cons.mpr ⟨fun hmem => ?_, h.nodup⟩)
    have hle := h.fresh _ hmem
    omega

theorem prepare_lnb_assignment_lease.fine (h : s.Sound) (frontend_id lnb_id : Int) :
    Fine s (s.prepare_lnb_assignment_lease frontend_id lnb_id) := by
  unfold prepare_lnb_assignment_lease
  split
  · rename_i error herror
    exact fine_error h (validate_lnb_assignment_target.error herror)
  rename_i hvalid
  rw [if_neg (not_not_intro (h.bound frontend_id))]
  split
  · exact fine_unchanged h
  split
  · exact fine_error h (by decide)
  split
  · exact fine_error h (by decide)
  rename_i token htoken
  have hsound := h.lnbs.prepare frontend_id (validate_lnb_assignment_target.spec hvalid)
  rw [next_token htoken]
  exact fine_ok (h.on_lnbs hsound rfl) ⟨rfl, rfl⟩

theorem prepared_erase (h : r.Sound) (token : Nat) {t : Nat}
    (hget : (r.prepared_assignment_leases.erase token).get t = some (frontend_id, lnb_id)) :
    (r.physical_keys.get lnb_id).isSome :=
  h.prepared t frontend_id lnb_id (OrdMap.get_of_erase hget).2

theorem abort_prepared_lnb_assignment_lease.sound (h : s.Sound)
    (prepared : PreparedLnbAssignmentLease) :
    (s.abort_prepared_lnb_assignment_lease prepared).1.Sound ∧
      SameLnbs s (s.abort_prepared_lnb_assignment_lease prepared).1 := by
  unfold abort_prepared_lnb_assignment_lease
  dsimp only
  split
  · rename_i hget
    obtain ⟨hfresh, hnodup⟩ := h.lnbs.tokens_less (((OrdMap.perm_erase hget).map _).append_right _)
    refine ⟨h.on_lnbs ⟨h.lnbs.keyed, h.lnbs.running, h.lnbs.counts, fun _ _ _ => ?_, hfresh,
      hnodup⟩ rfl, rfl, rfl⟩
    exact prepared_erase h.lnbs _
  · exact ⟨h, rfl, rfl⟩

/-- The cleanups that wait once a lease is replaced. -/
def pending_after (r : LnbRegistry) (frontend_id : Int) : OrdMap Nat (Int × Int) :=
  match r.assignment_leases.get frontend_id with
  | none => r.pending_assignment_cleanup
  | some lease => r.pending_assignment_cleanup.insert lease.token (frontend_id, lease.lnb_id)

/-- The new lease is one more thing held. The old one, if there is one, is still held, by its
cleanup. -/
theorem commit_perms (h : r.Sound)
    (hget : r.prepared_assignment_leases.get token = some (frontend_id, lnb_id)) :
    (held_by (r.assignment_leases.insert frontend_id { lnb_id, token })
        (pending_after r frontend_id) r.fixed_power_leases).Perm (lnb_id :: r.held) ∧
    (tokens_of (r.prepared_assignment_leases.erase token)
        (r.assignment_leases.insert frontend_id { lnb_id, token })
        (pending_after r frontend_id)).Perm r.tokens := by
  have hleases := r.assignment_leases.values_insert frontend_id { lnb_id, token }
  have hprepared := (OrdMap.perm_erase hget).map Prod.fst
  unfold pending_after
  cases hold : r.assignment_leases.get frontend_id with
  | none =>
    rw [OrdMap.erase_absent hold] at hleases
    constructor
    · exact (hleases.map _).append_right _
    · exact (perm_second (hleases.map (·.token))).trans (hprepared.append_right _).symm
  | some old =>
    have hremoved := OrdMap.values_erase hold
    have habsent : r.pending_assignment_cleanup.get old.token = none := by
      -- the token of a lease is not that of a cleanup
      rw [Option.eq_none_iff_forall_ne_some]
      intro x hx
      have hpending : old.token ∈ r.pending_assignment_cleanup.items.map Prod.fst :=
        mem_map_of_mem (r.pending_assignment_cleanup.get_eq_some.mp hx)
      have hlease : old.token ∈ r.assignment_leases.values.map (·.token) :=
        mem_map_of_mem (hremoved.mem_iff.mpr mem_cons_self)
      have hdisjoint := (nodup_append.mp (nodup_append.mp h.nodup).2.1).2.2
      exact hdisjoint _ hlease _ hpending rfl
    have hpending := r.pending_assignment_cleanup.insert_perm old.token (frontend_id, old.lnb_id)
    rw [OrdMap.erase_absent habsent] at hpending
    constructor
    · apply perm_iff_count.mpr
      intro i
      have hl := (hleases.map (·.lnb_id)).count_eq i
      have hr := (hremoved.map (·.lnb_id)).count_eq i
      have hp := ((hpending.map Prod.snd).map Prod.snd).count_eq i
      simp only [held, held_by, OrdMap.values, count_append, map_cons,
        count_cons] at hl hr hp ⊢
      omega
    · apply perm_iff_count.mpr
      intro t
      have hl := (hleases.map (·.token)).count_eq t
      have hr := (hremoved.map (·.token)).count_eq t
      have hp := (hpending.map Prod.fst).count_eq t
      have hq := hprepared.count_eq t
      simp only [tokens, tokens_of, count_append, map_cons,
        count_cons] at hl hr hp hq ⊢
      omega

section

variable (h : s.Sound)
include h

theorem commit_prepared_lnb_assignment.sound (prepared : PreparedLnbAssignmentLease) :
    (s.commit_prepared_lnb_assignment prepared).1.Sound ∧
      SameLnbs s (s.commit_prepared_lnb_assignment prepared).1 ∧
      ∀ error, (s.commit_prepared_lnb_assignment prepared).2 = .error error →
        error.error ∉ lease_violations := by
  unfold commit_prepared_lnb_assignment
  dsimp only
  split
  · refine ⟨h, ⟨rfl, rfl⟩, fun error herror => ?_⟩
    cases herror
    simp [lease_violations, violation]
  rename_i hmatches
  rw [not_or, not_not] at hmatches
  have hget := hmatches.1
  have hid := h.lnbs.prepared _ _ _ hget
  rcases retain_rail_reference.cases h.lnbs.counts hid with herror | ⟨counts, hok, hcounts⟩
  · rw [herror]
    refine ⟨h, ⟨rfl, rfl⟩, fun error heq => ?_⟩
    cases heq
    simp [lease_violations, violation]
  · rw [hok]
    obtain ⟨hheld, htokens⟩ := commit_perms h.lnbs hget
    refine ⟨⟨⟨h.lnbs.keyed, h.lnbs.running, hcounts.perm hheld.symm, fun _ _ _ => ?_,
      fun token htoken => h.lnbs.fresh token (htokens.mem_iff.mp htoken),
      htokens.nodup_iff.mpr h.lnbs.nodup⟩, fun frontend_id => ?_⟩, ⟨rfl, rfl⟩, nofun⟩
    · exact prepared_erase h.lnbs _
    · rw [OrdMap.get_insert, OrdMap.get_insert]
      split
      · rfl
      · exact h.bound frontend_id

theorem complete_lnb_assignment_cleanup.fine (cleanup : LnbAssignmentCleanupRecord) :
    Fine s (s.complete_lnb_assignment_cleanup cleanup) := by
  unfold complete_lnb_assignment_cleanup
  dsimp only
  split
  · exact fine_error h (by decide)
  rename_i hget
  rw [not_not] at hget
  obtain ⟨counts, hok, hcounts⟩ := release_rail_reference.spec
    (h.lnbs.counts.perm (perm_second ((OrdMap.values_erase hget).map _)))
  obtain ⟨hfresh, hnodup⟩ :=
    h.lnbs.tokens_less (perm_third ((OrdMap.perm_erase hget).map Prod.fst))
  rw [hok]
  exact fine_ok (h.on_lnbs
    ⟨h.lnbs.keyed, h.lnbs.running, hcounts, h.lnbs.prepared, hfresh, hnodup⟩ rfl) ⟨rfl, rfl⟩

theorem release_lnb_assignment.fine (frontend_id : Int) :
    Fine s (s.release_lnb_assignment frontend_id) := by
  have hbound := h.bound frontend_id
  unfold release_lnb_assignment
  rw [if_neg (not_not_intro hbound)]
  cases hlease : s.lnb_registry.assignment_leases.get frontend_id with
  | none =>
    rw [hlease] at hbound
    dsimp only [release_lease]
    rw [OrdMap.erase_absent hlease, OrdMap.erase_absent hbound]
    exact fine_unchanged h
  | some lease =>
    have hvalues := OrdMap.values_erase hlease
    obtain ⟨counts, hok, hcounts⟩ :=
      release_rail_reference.spec (h.lnbs.counts.perm ((hvalues.map _).append_right _))
    obtain ⟨hfresh, hnodup⟩ := h.lnbs.tokens_less (perm_second (hvalues.map (·.token)))
    dsimp only [release_lease]
    rw [hok]
    refine fine_ok ⟨⟨h.lnbs.keyed, h.lnbs.running, hcounts, h.lnbs.prepared, hfresh, hnodup⟩,
      fun other => ?_⟩ ⟨rfl, rfl⟩
    rw [OrdMap.get_erase, OrdMap.get_erase]
    split
    · rfl
    · exact h.bound other

theorem retain_fixed_power_lease.fine (hid : (s.lnb_registry.entries.get lnb_id).isSome) :
    Fine s (s.on_lnbs (s.lnb_registry.retain_fixed_power_lease frontend_id lnb_id)) := by
  unfold retain_fixed_power_lease
  split
  · split
    · exact fine_unchanged h
    · exact fine_error h (by decide)
  rename_i hnone
  have hkey := (h.lnbs.keyed lnb_id).mpr hid
  rcases retain_rail_reference.cases h.lnbs.counts hkey with herror | ⟨counts, hok, hcounts⟩
  · rw [herror]
    exact fine_error h (by decide)
  · rw [hok]
    have hperm := s.lnb_registry.fixed_power_leases.values_insert frontend_id lnb_id
    rw [OrdMap.erase_absent hnone] at hperm
    exact fine_ok (h.on_lnbs ⟨h.lnbs.keyed, h.lnbs.running, hcounts.perm (perm_third hperm).symm,
      h.lnbs.prepared, h.lnbs.fresh, h.lnbs.nodup⟩ rfl) ⟨rfl, rfl⟩

theorem retain_frontend_fixed_power_lease.fine (frontend_id lnb_id : Int) :
    Fine s (s.retain_frontend_fixed_power_lease frontend_id lnb_id) := by
  unfold retain_frontend_fixed_power_lease
  iterate 3
    split
    · exact fine_error h (by decide)
  rename_i hentry
  split
  · exact fine_error h (by decide)
  refine retain_fixed_power_lease.fine h ?_
  rw [hentry]
  rfl

theorem release_frontend_fixed_power_lease.fine (frontend_id : Int) :
    Fine s (s.release_frontend_fixed_power_lease frontend_id) := by
  unfold release_frontend_fixed_power_lease release_fixed_power_lease
  split
  · exact fine_unchanged h
  rename_i lnb_id hlease
  have hcounts := h.lnbs.counts.perm (perm_third (OrdMap.values_erase hlease))
  obtain ⟨key, hkey⟩ := Option.isSome_iff_exists.mp (hcounts.grouped lnb_id mem_cons_self)
  rw [rail_counter_held hcounts hkey, share_cons, if_pos hkey]
  exact fine_ok (h.on_lnbs ⟨h.lnbs.keyed, h.lnbs.running, hcounts.release hkey, h.lnbs.prepared,
    h.lnbs.fresh, h.lnbs.nodup⟩ rfl) ⟨rfl, rfl⟩

end

/-- The error of a result, if it is one. -/
def failed {ε α : Type} : Except ε α → Option ε
  | .ok _ => none
  | .error error => some error

theorem failed_some {ε : Type} {result : Except ε α} {error : ε} :
    failed result = some error ↔ result = .error error := by
  cases result with
  | ok a => exact ⟨nofun, nofun⟩
  | error e => exact ⟨fun h => congrArg _ (Option.some.inj h), fun h => by cases h; rfl⟩

/-- The error that an answer gives, if it is one of the registry. -/
def LnbRegistryAnswer.error : LnbRegistryAnswer → Option HalError
  | .AssignmentPrepared result => failed result
  | .AssignmentCommitted result => (failed result).map (·.error)
  | .CleanupCompleted result | .AssignmentReleased result | .FixedPowerRetained result
  | .FixedPowerReleased result => failed result
  | _ => none

theorem prepare_state_apply.sound (h : s.Sound) (id : Int) (target : LnbElectricalState) :
    (s.prepare_lnb_state_apply id target).1.Sound ∧
      (s.prepare_lnb_state_apply id target).1.lnb_registry.physical_keys =
        s.lnb_registry.physical_keys := by
  unfold RuntimeRegistry.prepare_lnb_state_apply prepare_state_apply
  split
  · exact ⟨h, rfl⟩
  · exact on_runtime.sound h id _

theorem prepare_close.sound (h : s.Sound) (id : Int) : (s.prepare_lnb_close id).1.Sound ∧
    (s.prepare_lnb_close id).1.lnb_registry.physical_keys = s.lnb_registry.physical_keys := by
  unfold RuntimeRegistry.prepare_lnb_close prepare_close
  split
  · exact ⟨h, rfl⟩
  · exact on_runtime.sound h id _

/-- What a call gives: a sound registry, with the LNBs on their rails but for what is registered or
cleared, and no error of leases that do not fit. -/
structure Answers (s : RuntimeRegistry) (call : LnbRegistryCall) (s' : RuntimeRegistry)
    (error : Option HalError) : Prop where
  sound : s'.Sound
  keys : s'.lnb_registry.physical_keys = s.lnb_registry.physical_keys ∨
    (∃ entry, call = .RegisterLnb entry) ∨ call = .ClearLnbs
  fits : ∀ e, error = some e → e ∉ lease_violations

theorem Fine.answers {answer : RuntimeRegistry × HalResult α} (h : Fine s answer)
    (call : LnbRegistryCall) : Answers s call answer.1 (failed answer.2) :=
  ⟨h.sound, .inl h.same.keys, fun error herror => h.error error (failed_some.mp herror)⟩

theorem Answers.quiet {call : LnbRegistryCall} (h : s'.Sound ∧
    s'.lnb_registry.physical_keys = s.lnb_registry.physical_keys) : Answers s call s' none :=
  ⟨h.1, .inl h.2, nofun⟩

theorem call_answers (h : s.Sound) (call : LnbRegistryCall) :
    Answers s call (s.call call).1 (s.call call).2.error := by
  cases call with
  | RegisterFrontend entry => exact .quiet (register_frontend.sound h entry)
  | FrontendMoves frontend_id state => exact .quiet ⟨⟨h.lnbs, h.bound⟩, rfl⟩
  | ClearFrontends => exact .quiet ⟨clear_frontends.sound h, rfl⟩
  | RegisterLnb entry => exact ⟨register_lnb.sound h entry, .inr (.inl ⟨entry, rfl⟩), nofun⟩
  | ClearLnbs => exact ⟨clear_lnbs.sound s, .inr (.inr rfl), nofun⟩
  | PrepareAssignment frontend_id lnb_id =>
    exact (prepare_lnb_assignment_lease.fine h frontend_id lnb_id).answers _
  | AbortAssignment prepared =>
    obtain ⟨hsound, hsame⟩ := abort_prepared_lnb_assignment_lease.sound h prepared
    exact .quiet ⟨hsound, hsame.keys⟩
  | CommitAssignment prepared =>
    obtain ⟨hsound, hsame, herror⟩ := commit_prepared_lnb_assignment.sound h prepared
    refine ⟨hsound, .inl hsame.keys, fun error hfailed => ?_⟩
    obtain ⟨inner, hinner, rfl⟩ := Option.map_eq_some_iff.mp hfailed
    exact herror inner (failed_some.mp hinner)
  | CompleteCleanup cleanup => exact (complete_lnb_assignment_cleanup.fine h cleanup).answers _
  | ReleaseAssignment frontend_id => exact (release_lnb_assignment.fine h frontend_id).answers _
  | RetainFixedPower frontend_id lnb_id =>
    exact (retain_frontend_fixed_power_lease.fine h frontend_id lnb_id).answers _
  | ReleaseFixedPower frontend_id =>
    exact (release_frontend_fixed_power_lease.fine h frontend_id).answers _
  | PrepareStateApply id target => exact .quiet (prepare_state_apply.sound h id target)
  | PrepareClose id => exact .quiet (prepare_close.sound h id)
  | FinishStateApply id | FinishClose id | Reopen id | SetCallbackRegistered id | RecordDropLeak id
  | FinishDiseqc id => exact .quiet (on_runtime.sound h id _)

/-! ## The laws -/

/-- A prepared lease carries what it was prepared on. -/
theorem prepare_lnb_assignment_lease.snapshot {prepared : PreparedLnbAssignmentLease}
    (h : (s.prepare_lnb_assignment_lease frontend_id lnb_id).2 = .ok (some prepared)) :
    prepared.frontend_id = frontend_id ∧
      prepared.expected_relation = s.frontend_lnb_bindings.get frontend_id ∧
      prepared.expected_lease = s.lnb_registry.assignment_leases.get frontend_id := by
  unfold prepare_lnb_assignment_lease at h
  split at h
  · cases h
  dsimp only at h
  iterate 4
    split at h
    · cases h
  · cases h
    exact ⟨rfl, rfl, rfl⟩

theorem commit_prepared_lnb_assignment.snapshot {prepared : PreparedLnbAssignmentLease}
    {cleanup : Option LnbAssignmentCleanupRecord}
    (h : (s.commit_prepared_lnb_assignment prepared).2 = .ok cleanup) :
    s.frontend_lnb_bindings.get prepared.frontend_id = prepared.expected_relation ∧
      s.lnb_registry.assignment_leases.get prepared.frontend_id = prepared.expected_lease := by
  unfold commit_prepared_lnb_assignment at h
  dsimp only at h
  split at h
  · cases h
  rename_i hmatches
  simp only [not_or, not_not] at hmatches
  exact ⟨hmatches.2.1, hmatches.2.2.1⟩

/-- The leases on the LNBs of a rail: assignments, cleanups that wait, and fixed power. -/
def LnbRegistry.leases_on (r : LnbRegistry) (key : String) : Nat :=
  let on_rail (id : Int) : Bool := r.physical_keys.get id = some key
  r.assignment_leases.values.countP (on_rail ·.lnb_id) +
    r.pending_assignment_cleanup.values.countP (on_rail ·.2) +
    r.fixed_power_leases.values.countP on_rail

/-- Whatever calls a registry gets, the counter of each rail is the number of leases on its LNBs,
and the frontends are bound to what they lease. A prepared lease is committed only on the binding
and the lease that it was prepared on. No call ends in the error of a counter or of a binding. -/
theorem every_rail_is_counted (calls : List LnbRegistryCall) :
    (∀ id key, (registry_after calls).lnb_registry.physical_keys.get id = some key →
      (registry_after calls).lnb_registry.rail_reference_counts.get key =
        some ((registry_after calls).lnb_registry.leases_on key)) ∧
    (∀ frontend_id, (registry_after calls).frontend_lnb_bindings.get frontend_id =
      ((registry_after calls).lnb_registry.assignment_leases.get frontend_id).map (·.lnb_id)) ∧
    (∀ before later frontend_id lnb_id prepared cleanup,
      calls = before ++ .PrepareAssignment frontend_id lnb_id :: later →
      ((registry_after before).prepare_lnb_assignment_lease frontend_id lnb_id).2 =
        .ok (some prepared) →
      ((registry_after calls).commit_prepared_lnb_assignment prepared).2 = .ok cleanup →
        (registry_after calls).frontend_lnb_bindings.get frontend_id =
          (registry_after before).frontend_lnb_bindings.get frontend_id ∧
        (registry_after calls).lnb_registry.assignment_leases.get frontend_id =
          (registry_after before).lnb_registry.assignment_leases.get frontend_id) ∧
    ∀ call error, ((registry_after calls).call call).2.error = some error →
      error ∉ lease_violations := by
  have hsound : (registry_after calls).Sound := run_keeps (P := RuntimeRegistry.Sound)
    (fun _ call h => (call_answers h call).sound) {} calls (clear_lnbs.sound {})
  refine ⟨fun id key hkey => ?_, hsound.bound, ?_, fun call => (call_answers hsound call).fits⟩
  · rw [hsound.lnbs.counts.get hkey]
    simp only [share, held, held_by, leases_on, countP_append, countP_map,
      Nat.add_assoc]
    rfl
  · intro before later frontend_id lnb_id prepared cleanup _ hprepared hcommitted
    obtain ⟨rfl, hrelation, hlease⟩ := prepare_lnb_assignment_lease.snapshot hprepared
    obtain ⟨hbinding, hleased⟩ := commit_prepared_lnb_assignment.snapshot hcommitted
    exact ⟨hbinding.trans hrelation, hleased.trans hlease⟩

end Steps

namespace OneRail

def frontend : FrontendRegistryEntry :=
  { id := 1, satellite_power_topology := .InternalFixed15V }

def lnb (id : Int) : LnbRegistryEntry :=
  { id, name := some "rail", owner_frontend_id := 1, profile := .Px4Device15VOnly }

def first : PreparedLnbAssignmentLease :=
  { frontend_id := 1, lnb_id := 10, token := 1, expected_relation := none, expected_lease := none }

/-- Two LNBs on one rail, the first of them leased. -/
def leased : List LnbRegistryCall :=
  [.RegisterFrontend frontend, .RegisterLnb (lnb 10), .RegisterLnb (lnb 11),
    .PrepareAssignment 1 10, .CommitAssignment first, .RetainFixedPower 1 11]

def second : PreparedLnbAssignmentLease :=
  { frontend_id := 1, lnb_id := 11, token := 2, expected_relation := some 10
    expected_lease := some { lnb_id := 10, token := 1 } }

/-- The frontend is on the way to the second LNB. -/
def moving : List LnbRegistryCall := leased ++ [.PrepareAssignment 1 11]

theorem the_rail_is_held_twice :
    (registry_after moving).lnb_registry.rail_reference_counts.get "rail" =
        some ((registry_after moving).lnb_registry.leases_on "rail") ∧
      (registry_after moving).lnb_registry.leases_on "rail" = 2 ∧
      (registry_after moving).frontend_lnb_bindings.get 1 =
        (registry_after leased).frontend_lnb_bindings.get 1 ∧
      violation "old frontend/LNB assignment cleanup record is missing" ∉ lease_violations := by
  obtain ⟨hcounts, -, hcommit, herror⟩ := every_rail_is_counted moving
  refine ⟨hcounts 10 "rail" (by decide), by decide, ?_, ?_⟩
  · exact (hcommit leased [] 1 11 second (some ⟨1, 10, 1⟩) rfl (by decide) (by decide)).1
  · exact herror (.CompleteCleanup ⟨1, 10, 1⟩) _ (by decide)

end OneRail

/-! ## What a lease of fixed power protects -/

/-- No other LNB is on the rail of the entry. -/
def OwnRail (r : LnbRegistry) (entry : LnbRegistryEntry) : Prop :=
  ∀ id, r.physical_keys.get id = some (physical_key_for_entry entry) → id = entry.id

/-- No two LNBs are on one rail. -/
def RailsApart (r : LnbRegistry) : Prop :=
  ∀ id j key, r.physical_keys.get id = some key → r.physical_keys.get j = some key → id = j

/-- An LNB that gets registered has a rail of its own. -/
def RegistersOwnRail (s : RuntimeRegistry) : LnbRegistryCall → Prop
  | .RegisterLnb entry => (s.register_lnb entry).2.isOk → OwnRail s.lnb_registry entry
  | _ => True

/-- No change to another voltage and no close is accepted for the LNB. -/
def Guarded (s : RuntimeRegistry) (id : Int) : Prop :=
  (∀ target : LnbElectricalState, target.voltage ≠ .Voltage15V →
    (s.prepare_lnb_state_apply id target).2 = .error (invalid_state id)) ∧
    (s.prepare_lnb_close id).2 = .error (invalid_state id)

variable {s s' : RuntimeRegistry}

section

variable (h : RailsApart s.lnb_registry)
include h

theorem RailsApart.register {entry : LnbRegistryEntry}
    (hmeets : RegistersOwnRail s (.RegisterLnb entry)) :
    RailsApart (s.register_lnb entry).1.lnb_registry := by
  unfold RegistersOwnRail at hmeets
  unfold RuntimeRegistry.register_lnb at hmeets ⊢
  dsimp only at hmeets ⊢
  split
  · exact h
  rename_i hnew
  rw [if_neg hnew] at hmeets
  split
  · exact h
  rename_i hfits
  rw [if_neg hfits] at hmeets
  have hown : OwnRail s.lnb_registry entry := hmeets rfl
  intro id j key hid hj
  rw [OrdMap.get_insert] at hid hj
  split at hid
  · split at hj
    · rename_i hid' hj'
      exact hid'.trans hj'.symm
    · rename_i hid' _
      cases hid
      exact hid'.trans (hown j hj).symm
  · split at hj
    · rename_i hj'
      cases hj
      exact (hown id hid).trans hj'.symm
    · exact h id j key hid hj

/-- The rails stay apart where each new LNB gets one of its own. -/
theorem RailsApart.call (hsound : s.Sound) (call : LnbRegistryCall)
    (hmeets : RegistersOwnRail s call) : RailsApart (s.call call).1.lnb_registry := by
  rcases (call_answers hsound call).keys with hkeys | ⟨entry, rfl⟩ | rfl
  · unfold RailsApart
    rw [hkeys]
    exact h
  · exact h.register hmeets
  · exact nofun

end

/-- A lease guards the LNB that it is on. -/
theorem guarded_of_lease {frontend_id id : Int}
    (h : s.frontend_fixed_power_lnb frontend_id = some id) : Guarded s id := by
  have hmem : id ∈ s.lnb_registry.fixed_power_leases.values :=
    List.mem_map_of_mem ((OrdMap.get_eq_some _).mp h)
  have hany := List.any_eq_true (p := (· = id)).mpr ⟨id, hmem, decide_eq_true rfl⟩
  refine ⟨fun target hvoltage => ?_, ?_⟩
  · change (prepare_state_apply _ id target).2 = _
    rw [prepare_state_apply, if_pos ⟨hvoltage, hany⟩]
  · change (prepare_close _ id).2 = _
    rw [prepare_close, if_pos hany]

/-- A lease of fixed power protects its rail where all the LNBs of the rail are leased, and in every
run in which each LNB that got registered has a rail of its own: no change to another voltage and no
close is accepted for an LNB of the rail. -/
theorem a_lease_protects_its_own_rail (calls : List LnbRegistryCall) {frontend_id lnb_id : Int}
    {key : String}
    (hlease : (registry_after calls).frontend_fixed_power_lnb frontend_id = some lnb_id)
    (hlnb : (registry_after calls).lnb_registry.physical_keys.get lnb_id = some key)
    (hrail : (∀ id, (registry_after calls).lnb_registry.physical_keys.get id = some key →
        ∃ frontend, (registry_after calls).frontend_fixed_power_lnb frontend = some id) ∨
      ∀ before call later, calls = before ++ call :: later →
        RegistersOwnRail (registry_after before) call) :
    ∀ id, (registry_after calls).lnb_registry.physical_keys.get id = some key →
      Guarded (registry_after calls) id := by
  intro id hid
  rcases hrail with hall | hown
  · obtain ⟨frontend, hleased⟩ := hall id hid
    exact guarded_of_lease hleased
  · have hstep (s : RuntimeRegistry) (call : LnbRegistryCall) (hmeets : RegistersOwnRail s call)
        (h : s.Sound ∧ RailsApart s.lnb_registry) :
        (s.call call).1.Sound ∧ RailsApart (s.call call).1.lnb_registry :=
      ⟨(call_answers h.1 call).sound, h.2.call h.1 call hmeets⟩
    have hapart : RailsApart (registry_after calls).lnb_registry :=
      (run_keeps_when hstep ⟨clear_lnbs.sound {}, nofun⟩ hown).2
    cases hapart id lnb_id key hid hlnb
    exact guarded_of_lease hlease

namespace SharedRail

open OneRail

/-- An LNB on a rail of its own. -/
def otherLnb : LnbRegistryEntry := { lnb 20 with name := some "other" }

/-- The first LNB comes twice, and is refused the second time. -/
def powered : List LnbRegistryCall :=
  [.RegisterFrontend frontend, .RegisterLnb (lnb 10), .RegisterLnb otherLnb, .RegisterLnb (lnb 10),
    .RetainFixedPower 1 10]

theorem the_powered_lnb_is_not_closed : Guarded (registry_after powered) 10 ∧
    ((registry_after powered).prepare_lnb_close 20).2.isOk := by
  have hlease : (registry_after powered).frontend_fixed_power_lnb 1 = some 10 := by decide
  have hlnb : (registry_after powered).lnb_registry.physical_keys.get 10 = some "rail" := by decide
  refine ⟨a_lease_protects_its_own_rail powered hlease hlnb (.inr fun before call later heq => ?_)
    10 hlnb, by decide⟩
  match before, heq with
  | [], heq | [_, _, _, _], heq =>
    cases heq
    trivial
  | [_], heq =>
    cases heq
    exact fun _ => nofun
  | [_, _], heq =>
    cases heq
    intro _ id hid
    obtain ⟨-, hkey⟩ | hempty := OrdMap.get_of_insert hid
    · exact absurd hkey (by decide)
    · cases hempty
  | [_, _, _], heq =>
    cases heq
    exact fun hok => nomatch hok
  | _ :: _ :: _ :: _ :: _ :: before, heq => simp [powered] at heq

def shared : List LnbRegistryCall :=
  [.RegisterFrontend frontend, .RegisterLnb (lnb 10), .RegisterLnb (lnb 11), .RetainFixedPower 1 10]

/-- The second LNB of the rail can be switched off and closed under the lease on the first. -/
theorem the_second_lnb_takes_the_power :
    (registry_after shared).frontend_fixed_power_lnb 1 = some 10 ∧
      (registry_after shared).lnb_registry.physical_keys.get 10 = some "rail" ∧
      (registry_after shared).lnb_registry.physical_keys.get 11 = some "rail" ∧
      LnbElectricalState.safe.voltage ≠ .Voltage15V ∧
      ((registry_after shared).prepare_lnb_state_apply 11 .safe).2.isOk = true ∧
      ((registry_after shared).prepare_lnb_close 11).2.isOk = true := by
  decide

end SharedRail

end tuner_hal2_service_runtime
