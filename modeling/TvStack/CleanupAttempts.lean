-- Attempts to clean up after a close. The fence of an attempt is kept for the object it
-- was begun on, while the attempt works on all that object owns: a parent and its child
-- can be cleaned up at one time, unless no attempt begins above or below another.
import TvStack.ObjectOwnership

open Forests Relation

namespace tuner_hal2_service_runtime

open ObjectCloseTxn

namespace ObjectCloseTxn

variable {txn : ObjectCloseTxn} {id : AidlObjectId} {generation : AidlObjectGeneration}
  {r : ObjectKey}

/-- An attempt is active for the object of this handle. -/
def Active (txn : ObjectCloseTxn) (r : ObjectKey) : Prop :=
  ∃ obligation, txn.obligations.get r.1 = some obligation ∧ obligation.generation = r.2 ∧
    obligation.active_attempt.isSome

theorem active_of_clear (h : (txn.clear_obligation id).Active r) : txn.Active r ∧ r.1 ≠ id := by
  obtain ⟨obligation, hget, hrest⟩ := h
  obtain ⟨hne, hget⟩ := OrdMap.get_of_erase hget
  exact ⟨⟨obligation, hget, hrest⟩, hne⟩

theorem active_of_issue (h : (txn.issue_cleanup_authority id generation).1.Active r) :
    txn.Active r := by
  unfold issue_cleanup_authority at h
  split at h
  · split at h <;> exact h
  split at h
  · exact h
  obtain ⟨obligation, hget, hgeneration, hactive⟩ := h
  rcases OrdMap.get_of_insert hget with ⟨-, rfl⟩ | hget
  · cases hactive
  · exact ⟨obligation, hget, hgeneration, hactive⟩

theorem active_of_begin {authority : CloseCleanupAuthorityKey}
    (h : (txn.begin_cleanup_attempt id generation authority).1.Active r) :
    txn.Active r ∨ r = (id, generation) := by
  unfold begin_cleanup_attempt at h
  split at h
  · exact .inl h
  split at h
  · exact .inl h
  rename_i obligation _ hcheck
  split at h
  · exact .inl h
  obtain ⟨obligation', hget, hgeneration, hactive⟩ := h
  rcases OrdMap.get_of_insert hget with ⟨hid, rfl⟩ | hget
  · have hown : obligation.generation = generation :=
      not_not.mp fun hne => hcheck (.inl hne)
    exact .inr (Prod.ext hid (hgeneration.symm.trans hown))
  · exact .inl ⟨obligation', hget, hgeneration, hactive⟩

theorem active_of_finish {attempt : CloseCleanupAttemptKey} {complete : Bool}
    (h : (txn.finish_cleanup_attempt id generation attempt complete).1.Active r) :
    txn.Active r := by
  unfold finish_cleanup_attempt at h
  split at h
  · exact h
  split at h
  · exact (active_of_clear h).1
  split at h
  · exact h
  obtain ⟨obligation, hget, hgeneration, hactive⟩ := h
  rcases OrdMap.get_of_insert hget with ⟨-, rfl⟩ | hget
  · cases hactive
  · exact ⟨obligation, hget, hgeneration, hactive⟩

end ObjectCloseTxn

namespace RuntimeObjectTable

variable {t t' : RuntimeObjectTable} {id : AidlObjectId} {generation : AidlObjectGeneration}
  {e : RuntimeObjectEntry} {r r' : ObjectKey}

def Active (t : RuntimeObjectTable) (r : ObjectKey) : Prop := t.object_close_txn.Active r

/-- The object is in the middle of a close. -/
def InCleanup (e : RuntimeObjectEntry) : Prop :=
  (∃ step, e.lifecycle = .Closing step) ∨ ∃ step, e.lifecycle = .CleanupPending step

/-- The objects that an attempt on `r` works on. -/
def Covers (t : RuntimeObjectTable) (r k : ObjectKey) : Prop :=
  k = r ∨ (Below t.parent k r ∧ ∃ e, t.Holds k e ∧ InCleanup e)

/-- No object is covered by two active attempts. -/
def OneAttempt (t : RuntimeObjectTable) : Prop :=
  ∀ r r' k, t.Active r → t.Active r' → t.Covers r k → t.Covers r' k → r = r'

/-- No attempt begins on an object while one is active above or below it. -/
def BeginsApart (t : RuntimeObjectTable) : TableCall → Prop
  | .begin_attempt id generation authority =>
    (t.begin_close_cleanup_attempt id generation authority).2.isOk → ∀ r, t.Active r →
      ¬ Below t.parent r (id, generation) ∧ ¬ Below t.parent (id, generation) r
  | _ => True

/-- All attempts of the calls begin apart. -/
def AllApart : RuntimeObjectTable → List TableCall → Prop
  | _, [] => True
  | t, call :: rest => t.BeginsApart call ∧ ∀ t', call.apply t = some t' → AllApart t' rest

/-- Active attempts are on objects that were closed, and none is below another. -/
structure Apart (t : RuntimeObjectTable) : Prop where
  acyclic : Acyclic t.parent
  closed : ∀ r, t.Active r → ∃ e, t.Holds r e ∧ ¬ Open e
  apart : ∀ r r', t.Active r → t.Active r' → ¬ Below t.parent r r'

theorem Covers.within {k : ObjectKey} (h : t.Covers r k) : Within t.parent k r := by
  rcases h with rfl | ⟨hbelow, -⟩
  · exact .refl
  · exact hbelow.to_reflTransGen

theorem Apart.one_attempt (h : t.Apart) : t.OneAttempt := by
  intro r r' k hr hr' hcover hcover'
  rcases comparable hcover.within hcover'.within with hle | hle
  · rcases within_iff.mp hle with rfl | hbelow
    · rfl
    · exact absurd hbelow (h.apart r r' hr hr')
  · rcases within_iff.mp hle with rfl | hbelow
    · rfl
    · exact absurd hbelow (h.apart r' r hr' hr)

/-! ## Attempts stay apart -/

theorem apart_empty : ({} : RuntimeObjectTable).Apart :=
  ⟨acyclic_empty, fun _ ⟨_, hget, _⟩ => (nomatch hget), fun _ _ ⟨_, hget, _⟩ => nomatch hget⟩

section

variable (h : t.Apart)
include h

theorem Apart.keep (hparent : t'.parent = t.parent)
    (hholds : ∀ r e, t.Holds r e → ¬ Open e → ∃ e', t'.Holds r e' ∧ ¬ Open e')
    (hactive : ∀ r, t'.Active r → t.Active r) : t'.Apart := by
  refine ⟨hparent ▸ h.acyclic, fun r hr => ?_, fun r r' hr hr' => ?_⟩
  · obtain ⟨e, he, hclosed⟩ := h.closed r (hactive r hr)
    exact hholds r e he hclosed
  · rw [hparent]
    exact h.apart r r' (hactive r hr) (hactive r' hr')

theorem Apart.cascade {root : ObjectKey} {txn : ObjectCloseTxn}
    {next : NextLifecycle} (kind : CascadeKind next)
    (hcascade : Cascade t t' root next) (htxn : t'.object_close_txn = txn)
    (hactive : ∀ r, txn.Active r → t.Active r) : t'.Apart := by
  refine h.keep hcascade.parent_eq (fun r e he hclosed => ?_) fun r hr => hactive r (htxn ▸ hr)
  by_cases hwithin : Within t.parent e.key root
  · exact ⟨_, ⟨hcascade.inside r.1 e he.1 hwithin, he.2⟩, hcascade.not_open kind he.1 hwithin⟩
  · exact ⟨e, ⟨hcascade.outside r.1 e he.1 hwithin, he.2⟩, hclosed⟩

/-- A new entry has live owners, and no attempt is active on one of them. -/
theorem Apart.inserted {entry : RuntimeObjectEntry} (hentries : t'.entries = t.entries.insert entry)
    (alone : t.duplicate_of entry = none) (owner : t.OwnerLive entry.owner)
    (hactive : ∀ r, t'.Active r → t.Active r ∧ r.1 ≠ entry.object_id) : t'.Apart := by
  refine ⟨acyclic_inserted h.acyclic hentries alone owner, fun r hr => ?_,
    fun r r' hr hr' hbelow => ?_⟩
  · obtain ⟨hold, hid⟩ := hactive r hr
    obtain ⟨e, he, hclosed⟩ := h.closed r hold
    exact ⟨e, ⟨(entry_inserted hentries _).trans ((if_neg hid).trans he.1), he.2⟩, hclosed⟩
  · have hsub : ∀ a b, a ≠ entry.key → t'.parent a = some b → t.parent a = some b :=
      fun a b ha hb => parent_of_inserted hentries ha hb
    rcases Below.avoid_or_pass hsub hbelow with hold | ⟨-, hup⟩
    · exact h.apart r r' (hactive r hr).1 (hactive r' hr').1 hold
    · obtain ⟨b, hfirst, hrest⟩ := TransGen.head'_iff.mp hup
      have hself : t'.Holds entry.key entry :=
        ⟨(entry_inserted hentries _).trans (if_pos rfl), rfl⟩
      rw [ChildOf, hself.parent_eq] at hfirst
      obtain ⟨e, he, hlive⟩ := owner.above (live_graph_inserted hentries alone) hfirst hrest
      obtain ⟨e', he', hclosed⟩ := h.closed r' (hactive r' hr').1
      rw [he.unique he'] at hlive
      exact hclosed (.inl hlive)

/-- An attempt begins apart from the ones that are active. -/
theorem Apart.begin_attempt {authority : CloseCleanupAuthorityKey}
    (hbegins : t.BeginsApart (.begin_attempt id generation authority)) :
    (t.begin_close_cleanup_attempt id generation authority).1.Apart := by
  simp only [BeginsApart] at hbegins
  unfold begin_close_cleanup_attempt at hbegins ⊢
  split
  · exact h
  rename_i e hroot
  rw [hroot] at hbegins
  dsimp only at hbegins
  have hbegun : ¬ Open e → (∀ r, t.Active r →
      ¬ Below t.parent r (id, generation) ∧ ¬ Below t.parent (id, generation) r) → ∀ txn, txn =
      (t.object_close_txn.begin_cleanup_attempt id generation authority).1 →
      ({ t with object_close_txn := txn } : RuntimeObjectTable).Apart := by
    rintro hclosed hbegins txn rfl
    have hcases : ∀ r,
        (t.object_close_txn.begin_cleanup_attempt id generation authority).1.Active r →
        t.Active r ∨ r = (id, generation) := fun r hr => active_of_begin hr
    refine ⟨h.acyclic, fun r hr => ?_, fun r r' hr hr' hbelow => ?_⟩
    · rcases hcases r hr with hold | rfl
      · exact h.closed r hold
      · exact ⟨e, holds_of_checked hroot, hclosed⟩
    · rcases hcases r hr with hold | rfl <;> rcases hcases r' hr' with hold' | rfl
      · exact h.apart r r' hold hold' hbelow
      · exact (hbegins r hold).1 hbelow
      · exact (hbegins r' hold').2 hbelow
      · exact h.acyclic _ hbelow
  cases hlifecycle : e.lifecycle with
  | Prepared | Live | Closed | Quarantined => exact h
  | Closing step | CleanupPending step =>
    have hclosed : ¬ Open e := by
      rintro (hopen | hopen) <;> rw [hlifecycle] at hopen <;> cases hopen
    rw [hlifecycle] at hbegins
    dsimp only at hbegins ⊢
    split
    · exact h
    · rename_i txn attempt hbegin
      rw [hbegin] at hbegins
      exact hbegun hclosed (hbegins rfl) txn (by rw [hbegin])

theorem Apart.commit_prepared : (t.commit_prepared id generation).1.Apart := by
  unfold RuntimeObjectTable.commit_prepared
  split
  · exact h
  rename_i e he
  split
  · exact h
  rename_i hprepared
  have hfound := (holds_of_checked he).1
  refine h.keep (parent_relabelled hfound rfl)
    (fun r old hold hclosed => ⟨old, ⟨?_, hold.2⟩, hclosed⟩) fun r hr => hr
  rw [entry_put, if_neg ?_, hold.1]
  -- the entry of an active attempt is not the prepared one
  intro hsame
  have hheld := hold.1
  rw [hsame, ObjectEntries.object_id_of_get hfound, hfound] at hheld
  cases hheld
  exact hclosed (.inr (not_not.mp hprepared))

theorem Apart.remove : (t.remove id generation).1.Apart := by
  have hactive : ∀ r, (t.remove id generation).1.Active r →
      t.Active r ∧ (t.remove id generation).1.entry r.1 = t.entry r.1 := by
    intro r hr
    unfold RuntimeObjectTable.remove at hr ⊢
    split at hr
    · exact ⟨hr, rfl⟩
    · obtain ⟨hold, hid⟩ := active_of_clear hr
      exact ⟨hold, (ObjectEntries.get_erase ..).trans (if_neg hid)⟩
  refine ⟨acyclic_of_fewer h.acyclic fun _ _ => entry_of_remove, fun r hr => ?_,
    fun r r' hr hr' hbelow => ?_⟩
  · obtain ⟨hold, hentry⟩ := hactive r hr
    obtain ⟨e, he, hclosed⟩ := h.closed r hold
    exact ⟨e, ⟨hentry.trans he.1, he.2⟩, hclosed⟩
  · refine h.apart r r' (hactive r hr).1 (hactive r' hr').1
      (TransGen.mono (fun a b hb => ?_) _ _ hbelow)
    obtain ⟨e, he, howner⟩ := parent_eq_some.mp hb
    exact parent_eq_some.mpr ⟨e, ⟨entry_of_remove he.1, he.2⟩, howner⟩

theorem Apart.apply {call : TableCall} (hbegins : t.BeginsApart call) :
    ∃ t', call.apply t = some t' ∧ t'.Apart := by
  have hinsert : ∀ entry lifecycle, ∃ t',
      (t.insert_with_lifecycle entry lifecycle).map Prod.fst = some t' ∧ t'.Apart := by
    intro entry lifecycle
    refine (insert_with_lifecycle.cases h.acyclic entry lifecycle).keeps h ?_
    rintro _ - ⟨rfl, alone, owner⟩
    exact h.inserted rfl alone owner fun r hr => active_of_clear hr
  have hfinalize : ∀ id generation {lifecycle}, CascadeKind (finalized lifecycle) → ∃ t',
      (t.finalize_cascade id generation lifecycle).map Prod.fst = some t' ∧ t'.Apart := by
    intro id generation lifecycle kind
    refine (finalize_cascade.cases h.acyclic id generation lifecycle).keeps h ?_
    rintro t' - ⟨htxn, -, hcascade⟩
    exact h.cascade kind hcascade htxn fun _ hr => hr
  cases call with
  | insert entry => exact hinsert entry .Live
  | insert_prepared entry => exact hinsert entry .Prepared
  | mark_cleanup_failed id generation step =>
    exact hfinalize id generation (cascade_kind_finalized ⟨nofun, nofun⟩)
  | commit_close id generation =>
    exact hfinalize id generation (cascade_kind_finalized ⟨nofun, nofun⟩)
  | clear => exact ⟨_, rfl, apart_empty⟩
  | begin_attempt id generation authority => exact ⟨_, rfl, h.begin_attempt hbegins⟩
  | commit_prepared id generation => exact ⟨_, rfl, h.commit_prepared⟩
  | remove id generation => exact ⟨_, rfl, h.remove⟩
  | begin_close id generation step =>
    refine (begin_close.cases h.acyclic id generation step).keeps h ?_
    rintro t' - ⟨htxn, -, hcascade⟩
    exact h.cascade (cascade_kind_closing step) hcascade htxn
      fun _ => active_of_issue
  | finish_attempt id generation attempt outcome =>
    refine (finish_attempt.cases h.acyclic id generation attempt outcome).keeps h ?_
    rintro t' - ⟨next, complete, htxn, kind, hcascade⟩
    exact h.cascade kind hcascade htxn fun _ => active_of_finish
  | quarantine id generation =>
    refine (quarantine_cascade.cases h.acyclic id generation).keeps h ?_
    rintro t' - ⟨htxn, -, hcascade⟩
    exact h.cascade cascade_kind_quarantine hcascade htxn fun _ hr => hr

theorem Apart.run {before later : List TableCall} (hall : AllApart t (before ++ later)) :
    ∃ t', run_calls t before = some t' ∧ t'.Apart := by
  induction before generalizing t with
  | nil => exact ⟨t, rfl, h⟩
  | cons call rest ih =>
    obtain ⟨hbegins, hrest⟩ := hall
    obtain ⟨t', happly, h'⟩ := h.apply hbegins
    obtain ⟨t'', hrun, h''⟩ := ih h' (hrest t' happly)
    refine ⟨t'', ?_, h''⟩
    rw [run_calls, List.foldlM_cons, happly]
    exact hrun

end

/-- When every attempt of a run begins apart from the active ones, no object is covered twice in
any state of the run. -/
theorem one_attempt_when_apart {before later : List TableCall}
    (h : AllApart {} (before ++ later)) :
    ∃ t, run_calls {} before = some t ∧ t.OneAttempt := by
  obtain ⟨t, hrun, hapart⟩ := apart_empty.run h
  exact ⟨t, hrun, hapart.one_attempt⟩

/-! ## One attempt in the whole table -/

/-- No attempt is active. -/
def idle (t : RuntimeObjectTable) : Bool :=
  t.object_close_txn.obligations.values.all (·.active_attempt.isNone)

/-- The call begins no attempt, or finds the table idle. -/
def begins_alone (t : RuntimeObjectTable) : TableCall → Bool
  | .begin_attempt .. => t.idle
  | _ => true

def one_at_a_time : RuntimeObjectTable → List TableCall → Bool
  | _, [] => true
  | t, call :: rest => t.begins_alone call && (call.apply t).all (one_at_a_time · rest)

theorem not_active_of_idle (h : t.idle) : ¬ t.Active r := by
  rintro ⟨obligation, hget, -, hactive⟩
  have hmem : obligation ∈ t.object_close_txn.obligations.values :=
    List.mem_map_of_mem ((OrdMap.get_eq_some _).mp hget)
  have hnone := List.all_eq_true.mp h obligation hmem
  rw [Option.isNone_iff_eq_none.mp hnone] at hactive
  cases hactive

theorem allApart_of_one_at_a_time {calls : List TableCall} (h : t.one_at_a_time calls) :
    AllApart t calls := by
  induction calls generalizing t with
  | nil => trivial
  | cons call rest ih =>
    rw [one_at_a_time, Bool.and_eq_true] at h
    obtain ⟨hbegins, hrest⟩ := h
    refine ⟨?_, fun t' happly => ih (by rwa [happly] at hrest)⟩
    cases call with
    | begin_attempt id generation authority =>
      exact fun _ r hr => absurd hr (not_active_of_idle hbegins)
    | _ => trivial

namespace DemuxWithFilter

/-- The filter is closed and an attempt to clean it up begins. -/
def close_filter : List TableCall :=
  [.insert demux, .insert filter, .begin_close 11 1 .StopWorker, .begin_attempt 11 1 ⟨1⟩]

def close_demux : List TableCall := [.begin_close 10 1 .StopWorker, .begin_attempt 10 1 ⟨2⟩]

/-- Once the attempt on the filter is finished, the one on the demux begins apart. -/
theorem filter_covered_once :
    AllApart {} (close_filter ++ .finish_attempt 11 1 ⟨1, 1⟩ .Complete :: close_demux) ∧
    ∃ t, run_calls {}
        (close_filter ++ .finish_attempt 11 1 ⟨1, 1⟩ .Complete :: close_demux) = some t ∧
      t.OneAttempt := by
  have hall : AllApart {} (close_filter ++ .finish_attempt 11 1 ⟨1, 1⟩ .Complete :: close_demux) :=
    allApart_of_one_at_a_time (by decide +kernel)
  refine ⟨hall, ?_⟩
  exact one_attempt_when_apart hall

/-- While the attempt on the filter is active, the one on its demux covers the filter too. -/
theorem filter_covered_twice :
    ∃ t, run_calls {} (close_filter ++ close_demux) = some t ∧ ¬ t.OneAttempt := by
  have hactive : (run_calls {} (close_filter ++ close_demux)).map (fun t =>
      (t.object_close_txn.obligations.get 11, t.object_close_txn.obligations.get 10)) =
      some (some ⟨1, 1, some 1⟩, some ⟨1, 2, some 2⟩) := by decide +kernel
  have hfilter : (run_calls {} (close_filter ++ close_demux)).map (·.entry 11) =
      some (some { filter with lifecycle := .Closing .StopWorker }) := by decide +kernel
  obtain ⟨t, hrun, hobligations⟩ := Option.map_eq_some_iff.mp hactive
  obtain ⟨hget, hget'⟩ := Prod.mk.inj hobligations
  rw [hrun] at hfilter
  have hheld : t.Holds (11, 1) { filter with lifecycle := .Closing .StopWorker } :=
    ⟨Option.some.inj hfilter, rfl⟩
  have hbelow : Below t.parent (11, 1) (10, 1) := .single hheld.parent_eq
  refine ⟨t, hrun, fun hone => ?_⟩
  have hsame := hone (11, 1) (10, 1) (11, 1) ⟨_, hget, rfl, rfl⟩ ⟨_, hget', rfl, rfl⟩ (.inl rfl)
    (.inr ⟨hbelow, _, hheld, .inl ⟨_, rfl⟩⟩)
  exact absurd hsame (by decide)

end DemuxWithFilter

end RuntimeObjectTable

end tuner_hal2_service_runtime
