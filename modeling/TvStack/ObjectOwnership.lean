-- The laws of ownership over all calls of the object table: the owners form no cycle,
-- live objects have live owners, nothing is open below what is closed, and a resource
-- is bound by one open object.
import TvStack.ObjectCascades

open Forests Relation

namespace tuner_hal2_service_runtime.RuntimeObjectTable

open ObjectEntries

variable {t t' : RuntimeObjectTable} {id : AidlObjectId} {e : RuntimeObjectEntry} {k : ObjectKey}
  {entry : RuntimeObjectEntry}

/-! ## The graph after a step -/

theorem parent_of_entries (h : t'.entries = t.entries) : t'.parent = t.parent :=
  parent_congr fun id => by rw [entry, entry, h]

theorem Cascade.parent_eq {root : ObjectKey}
    {next : NextLifecycle} (h : Cascade t t' root next) :
    t'.parent = t.parent := by
  refine parent_congr fun id => ?_
  cases he : t.entry id with
  | none => rw [h.absent id he]
  | some e =>
    by_cases hwithin : Within t.parent e.key root
    · rw [h.inside id e he hwithin]
      rfl
    · rw [h.outside id e he hwithin]

/-- Nothing open stands in the way of a new entry: not under its id, and not for its resource. -/
theorem duplicate_none (h : t.duplicate_of entry = none) :
    (∀ e, t.entry entry.object_id = some e → e.lifecycle.is_terminal) ∧
      ∀ id e, t.entry id = some e → e.object_kind = entry.object_kind →
        e.ledger_id = entry.ledger_id → e.lifecycle.is_terminal := by
  unfold duplicate_of at h
  split at h
  · cases h
  rename_i hid
  split at h
  · cases h
  rename_i hresource
  refine ⟨fun e he => ?_, fun id e he hkind hledger => ?_⟩
  · by_contra hopen
    rw [he, Option.filter_some, if_pos (by simpa using hopen)] at hid
    cases hid
  · by_contra hopen
    refine hresource (List.any_eq_true.mpr ⟨e, ?_, decide_eq_true ⟨hkind, hledger, hopen⟩⟩)
    rw [mem_values, object_id_of_get he]
    exact he

theorem entry_inserted (h : t'.entries = t.entries.insert entry) (id : AidlObjectId) :
    t'.entry id = if id = entry.object_id then some entry else t.entry id := by
  rw [RuntimeObjectTable.entry, h]
  exact get_insert ..

/-- An entry behind an insert is the new one or was there. -/
theorem of_entry_inserted (h : t'.entries = t.entries.insert entry) (he : t'.entry id = some e) :
    (id = entry.object_id ∧ e = entry) ∨ (id ≠ entry.object_id ∧ t.entry id = some e) := by
  rw [entry_inserted h] at he
  split at he
  · exact .inl ⟨by assumption, (Option.some.inj he).symm⟩
  · exact .inr ⟨by assumption, he⟩

/-- A new lifecycle for one entry keeps the graph. -/
theorem parent_relabelled (found : t.entry id = some e) {lifecycle : RuntimeObjectLifecycle}
    (h : t'.entries = t.entries.insert { e with lifecycle }) : t'.parent = t.parent := by
  refine parent_congr fun id' => ?_
  rw [entry_inserted h]
  split
  · rename_i hid
    rw [hid, object_id_of_get found, found]
    rfl
  · rfl

theorem live_not_terminal {l : RuntimeObjectLifecycle} (h : l = .Live) : ¬ l.is_terminal := by
  rw [h]
  exact nofun

section

variable (h : t'.entries = t.entries.insert entry)
include h

/-- An entry that is inserted replaces nothing live. -/
theorem inserted_keeps_live (alone : t.duplicate_of entry = none) (he : t.entry id = some e)
    (hlive : e.lifecycle = .Live) : id ≠ entry.object_id ∧ t'.entry id = some e := by
  have hid : id ≠ entry.object_id := by
    rintro rfl
    exact live_not_terminal hlive ((duplicate_none alone).1 e he)
  exact ⟨hid, (entry_inserted h id).trans ((if_neg hid).trans he)⟩

/-- An insert gives a parent to its own handle only. -/
theorem parent_of_inserted {a b : ObjectKey} (ha : a ≠ entry.key) (hb : t'.parent a = some b) :
    t.parent a = some b := by
  obtain ⟨e, hholds, howner⟩ := parent_eq_some.mp hb
  rcases of_entry_inserted h hholds.1 with ⟨-, rfl⟩ | ⟨-, hentry⟩
  · exact absurd hholds.key_eq.symm ha
  · exact parent_eq_some.mpr ⟨e, ⟨hentry, hholds.2⟩, howner⟩

theorem live_graph_inserted (alone : t.duplicate_of entry = none) (k : ObjectKey)
    (e : RuntimeObjectEntry) (hholds : t.Holds k e) (hlive : e.lifecycle = .Live) :
    t'.parent k = e.owner.key :=
  Holds.parent_eq ⟨(inserted_keeps_live h alone hholds.1 hlive).2, hholds.2⟩

end

theorem acyclic_inserted (hacyclic : Acyclic t.parent) (h : t'.entries = t.entries.insert entry)
    (alone : t.duplicate_of entry = none) (owner : t.OwnerLive entry.owner) :
    Acyclic t'.parent := by
  refine hacyclic.graft (fun a b ha hb => parent_of_inserted h ha hb)
    fun b hb hback => ?_
  -- a way back would make the entry that was there before a live one
  have hself : t'.Holds entry.key entry := ⟨(entry_inserted h _).trans (if_pos rfl), rfl⟩
  rw [hself.parent_eq] at hb
  obtain ⟨e, hholds, hlive⟩ := owner.above (live_graph_inserted h alone) hb hback
  exact live_not_terminal hlive ((duplicate_none alone).1 e hholds.1)

theorem TableStep.acyclic (h : TableStep t t') (hacyclic : Acyclic t.parent) :
    Acyclic t'.parent := by
  cases h with
  | same h =>
    rw [parent_of_entries h]
    exact hacyclic
  | inserted entry h fresh alone owner => exact acyclic_inserted hacyclic h alone owner
  | committed id entry found prepared h =>
    rw [parent_relabelled found h]
    exact hacyclic
  | cascade root next kind h =>
    rw [h.parent_eq]
    exact hacyclic

theorem acyclic_empty : Acyclic (parent {}) := by
  intro k hcycle
  obtain ⟨b, hb, -⟩ := TransGen.head'_iff.mp hcycle
  obtain ⟨e, hholds, -⟩ := parent_eq_some.mp hb
  exact nomatch hholds.1

/-- Taking entries out closes no cycle. -/
theorem acyclic_of_fewer (hacyclic : Acyclic t.parent)
    (h : ∀ id e, t'.entry id = some e → t.entry id = some e) : Acyclic t'.parent := by
  refine hacyclic.mono fun a b hb => ?_
  obtain ⟨e, hholds, howner⟩ := parent_eq_some.mp hb
  exact parent_eq_some.mpr ⟨e, ⟨h _ e hholds.1, hholds.2⟩, howner⟩

theorem entry_of_remove {id' : AidlObjectId} {generation : AidlObjectGeneration}
    (h : (t.remove id generation).1.entry id' = some e) : t.entry id' = some e := by
  unfold remove at h
  split at h
  · exact h
  rw [RuntimeObjectTable.entry, get_erase] at h
  split at h
  · cases h
  · exact h

theorem apply_acyclic (hacyclic : Acyclic t.parent) (call : TableCall) :
    ∃ t', call.apply t = some t' ∧ Acyclic t'.parent := by
  have hkept (hkeeps : Keeps call) : ∃ t', call.apply t = some t' ∧ Acyclic t'.parent := by
    obtain ⟨t', happly, hstep⟩ := apply_step hacyclic hkeeps
    exact ⟨t', happly, hstep.acyclic hacyclic⟩
  cases call with
  | remove id generation => exact ⟨_, rfl, acyclic_of_fewer hacyclic fun _ _ => entry_of_remove⟩
  | clear => exact ⟨_, rfl, acyclic_empty⟩
  | insert | insert_prepared | commit_prepared | begin_close | begin_attempt | finish_attempt
  | mark_cleanup_failed | commit_close | quarantine => exact hkept trivial

/-- What every call keeps, a list of calls keeps, and it returns. -/
theorem run_calls_keeps {P : RuntimeObjectTable → Prop} {calls : List TableCall}
    (hcall : ∀ t, P t → ∀ call ∈ calls, ∃ t', call.apply t = some t' ∧ P t') (h : P t) :
    ∃ t', run_calls t calls = some t' ∧ P t' := by
  induction calls generalizing t with
  | nil => exact ⟨t, rfl, h⟩
  | cons call rest ih =>
    obtain ⟨t', happly, h'⟩ := hcall t h call List.mem_cons_self
    obtain ⟨t'', hrun, h''⟩ := ih (fun t ht c hc => hcall t ht c (List.mem_cons_of_mem _ hc)) h'
    refine ⟨t'', ?_, h''⟩
    rw [run_calls, List.foldlM_cons, happly]
    exact hrun

/-- After any calls, removals and reuse of ids included, the owners form no cycle. The walks up and
down the owners return, and the walk down lists no handle twice. -/
theorem owner_graph_is_a_forest (calls : List TableCall) :
    ∃ t, run_calls {} calls = some t ∧ Acyclic t.parent ∧
      (∀ object_id owner, (t.ensure_owner_live_for object_id owner).isSome) ∧
      ∀ object_id generation, ∃ keys,
        t.descendant_object_keys object_id generation = some keys ∧ keys.Nodup := by
  obtain ⟨t, hrun, hacyclic⟩ := run_calls_keeps
    (fun t ht call _ => apply_acyclic ht call) acyclic_empty
  exact ⟨t, hrun, hacyclic, ensure_owner_live_for.returns hacyclic,
    descendant_object_keys.spec hacyclic⟩

/-! ## Ownership -/

/-- An object that is open to calls, or is about to be. -/
def Open (e : RuntimeObjectEntry) : Prop := e.lifecycle = .Live ∨ e.lifecycle = .Prepared

/-- What holds of the entries as long as none is taken out. -/
structure Owned (t : RuntimeObjectTable) : Prop where
  acyclic : Acyclic t.parent
  owners_live : ∀ id e, t.entry id = some e → Open e → t.OwnerLive e.owner
  ends_below : ∀ id id' e e', t.entry id = some e → t.entry id' = some e' →
    e'.owner.key = some e.key → e.lifecycle.is_terminal → e'.lifecycle.is_terminal
  one_binding : ∀ id id' e e', t.entry id = some e → t.entry id' = some e' →
    e.object_kind = e'.object_kind → e.ledger_id = e'.ledger_id → ¬ e.lifecycle.is_terminal →
    ¬ e'.lifecycle.is_terminal → id = id'

theorem Open.not_terminal (h : Open e) : ¬ e.lifecycle.is_terminal := by
  rcases h with h | h <;> rw [h] <;> exact nofun

theorem Owned.of_entries (h : t.Owned) (heq : t'.entries = t.entries) : t'.Owned := by
  obtain ⟨es, txn⟩ := t
  cases heq
  refine ⟨h.acyclic, fun id e he hopen => ?_, h.ends_below, h.one_binding⟩
  exact (h.owners_live id e he hopen).mono fun _ _ hfound _ => hfound

theorem Owned.inserted (hinv : t.Owned) (h : t'.entries = t.entries.insert entry)
    (fresh : Open entry) (alone : t.duplicate_of entry = none) (owner : t.OwnerLive entry.owner) :
    t'.Owned := by
  have hlive : ∀ id e, t.entry id = some e → e.lifecycle = .Live → t'.entry id = some e :=
    fun id e he hlive => (inserted_keeps_live h alone he hlive).2
  obtain ⟨-, hresource⟩ := duplicate_none alone
  refine ⟨acyclic_inserted hinv.acyclic h alone owner, fun id e he hopen => ?_,
    fun id id' e e' he he' howner hend => ?_,
    fun id id' e e' he he' hkind hledger hopen hopen' => ?_⟩
  · rcases of_entry_inserted h he with ⟨-, rfl⟩ | ⟨-, hold⟩
    · exact owner.mono hlive
    · exact (hinv.owners_live id e hold hopen).mono hlive
  · rcases of_entry_inserted h he with ⟨-, rfl⟩ | ⟨-, hold⟩
    · exact absurd hend fresh.not_terminal
    · rcases of_entry_inserted h he' with ⟨-, rfl⟩ | ⟨-, hold'⟩
      · obtain ⟨up, hup, hlive⟩ := owner.above (fun _ _ h _ => h.parent_eq) howner .refl
        have hsame := (holds_of_entry hold).unique hup
        rw [hsame] at hend
        exact absurd hend (live_not_terminal hlive)
      · exact hinv.ends_below id id' e e' hold hold' howner hend
  · rcases of_entry_inserted h he with ⟨hid, rfl⟩ | ⟨-, hold⟩ <;>
      rcases of_entry_inserted h he' with ⟨hid', rfl⟩ | ⟨-, hold'⟩
    · rw [hid, hid']
    · exact absurd (hresource id' e' hold' hkind.symm hledger.symm) hopen'
    · exact absurd (hresource id e hold hkind hledger) hopen
    · exact hinv.one_binding id id' e e' hold hold' hkind hledger hopen hopen'

theorem Owned.committed (hinv : t.Owned) (found : t.entry id = some entry)
    (prepared : entry.lifecycle = .Prepared)
    (h : t'.entries = t.entries.insert { entry with lifecycle := .Live })
    (hacyclic : Acyclic t'.parent) : t'.Owned := by
  have hid : entry.object_id = id := object_id_of_get found
  have hlive : ∀ id e, t.entry id = some e → e.lifecycle = .Live → t'.entry id = some e := by
    intro id' e he hlive
    rw [entry_inserted h, if_neg ?_, he]
    rintro rfl
    rw [show t.entry entry.object_id = some entry from hid ▸ found] at he
    cases he
    rw [prepared] at hlive
    cases hlive
  -- an entry was there, open if it is open, at its end if it is
  have hcases : ∀ id' e', t'.entry id' = some e' → ∃ e, t.entry id' = some e ∧
      e' = { e with lifecycle := e'.lifecycle } ∧ (Open e' ↔ Open e) ∧
      e'.lifecycle.is_terminal = e.lifecycle.is_terminal := by
    intro id' e' he'
    rcases of_entry_inserted h he' with ⟨hsame, rfl⟩ | ⟨-, hold⟩
    · refine ⟨entry, ?_, rfl, ⟨fun _ => .inr prepared, fun _ => .inl rfl⟩, ?_⟩
      · rw [hsame]
        exact hid ▸ found
      · rw [prepared]
        rfl
    · exact ⟨e', hold, rfl, Iff.rfl, rfl⟩
  refine ⟨hacyclic, fun id e he hopen => ?_, fun id id' e e' he he' howner hend => ?_,
    fun id id' e e' he he' hkind hledger hopen hopen' => ?_⟩
  · obtain ⟨old, hold, hsame, hiff, -⟩ := hcases id e he
    rw [hsame]
    exact (hinv.owners_live id old hold (hiff.mp hopen)).mono hlive
  · obtain ⟨old, hold, hsame, -, hterminal⟩ := hcases id e he
    obtain ⟨old', hold', hsame', -, hterminal'⟩ := hcases id' e' he'
    rw [hsame, hsame'] at howner
    rw [hterminal']
    exact hinv.ends_below id id' old old' hold hold' howner (hterminal ▸ hend)
  · obtain ⟨old, hold, hsame, -, hterminal⟩ := hcases id e he
    obtain ⟨old', hold', hsame', -, hterminal'⟩ := hcases id' e' he'
    rw [hsame, hsame'] at hkind hledger
    exact hinv.one_binding id id' old old' hold hold' hkind hledger (hterminal ▸ hopen)
      (hterminal' ▸ hopen')

section Cascades

variable {root : ObjectKey} {next : NextLifecycle}

/-- An entry after a cascade is one from before, changed if it is in the subtree. -/
theorem Cascade.before (h : Cascade t t' root next) {e' : RuntimeObjectEntry}
    (he' : t'.entry id = some e') : ∃ e, t.entry id = some e ∧
      ((Within t.parent e.key root ∧ e' = after next e) ∨
        (¬ Within t.parent e.key root ∧ e' = e)) := by
  cases he : t.entry id with
  | none =>
    rw [h.absent id he] at he'
    cases he'
  | some e =>
    refine ⟨e, rfl, ?_⟩
    by_cases hwithin : Within t.parent e.key root
    · rw [h.inside id e he hwithin] at he'
      exact .inl ⟨hwithin, (Option.some.inj he').symm⟩
    · rw [h.outside id e he hwithin] at he'
      exact .inr ⟨hwithin, (Option.some.inj he').symm⟩

/-- No object in the subtree of a cascade is open after it. -/
theorem Cascade.not_open (h : Cascade t t' root next) (kind : CascadeKind next)
    (he : t.entry id = some e) (hwithin : Within t.parent e.key root) : ¬ Open (after next e) := by
  cases hnext : next e.lifecycle with
  | none =>
    rcases h.goes id e he hwithin with hgoes | hend
    · rw [hnext] at hgoes
      cases hgoes
    · intro hopen
      refine hopen.not_terminal ?_
      rw [after, hnext]
      exact hend
  | some l =>
    obtain ⟨hlive, hprepared⟩ := kind.not_live _ _ hnext
    rintro (hopen | hopen) <;> rw [after, hnext] at hopen
    · exact hlive hopen
    · exact hprepared hopen

theorem after_end (kind : CascadeKind next) (hend : e.lifecycle.is_terminal) :
    after next e = e := by
  rw [after, kind.keeps_end _ hend]
  rfl

/-- Owners outside of the subtree stay alive. -/
theorem OwnerLive.cascade {owner : RuntimeOwnerRelation} (hlive : t.OwnerLive owner)
    (h : Cascade t t' root next) (hout : ∀ k, owner.key = some k → ¬ Within t.parent k root) :
    t'.OwnerLive owner := by
  induction hlive with
  | root hroot => exact .root hroot
  | @owned owner kind k e names holds same_kind live _ ih =>
    have hkey : owner.key = some k := by rw [RuntimeOwnerRelation.key, names]; rfl
    have hkept : t'.entry k.1 = some e :=
      h.outside k.1 e holds.1 (by rw [holds.key_eq]; exact hout k hkey)
    refine .owned names ⟨hkept, holds.2⟩ same_kind live (ih fun up hup hwithin => ?_)
    exact hout k hkey (hwithin.head (parent_eq_some.mpr ⟨e, holds, hup⟩))

theorem Owned.cascade (hinv : t.Owned) (kind : CascadeKind next) (h : Cascade t t' root next) :
    t'.Owned := by
  have hacyclic : Acyclic t'.parent := by
    rw [h.parent_eq]
    exact hinv.acyclic
  -- an end stays an end
  have hends : ∀ id e e', t.entry id = some e → t'.entry id = some e' → e.lifecycle.is_terminal →
      e'.lifecycle.is_terminal := by
    intro id e e' he he' hend
    obtain ⟨old, hold, ⟨-, rfl⟩ | ⟨-, rfl⟩⟩ := h.before he'
    · rw [Option.some.inj (hold.symm.trans he), after_end kind hend]
      exact hend
    · rw [Option.some.inj (hold.symm.trans he)]
      exact hend
  refine ⟨hacyclic, fun id e' he' hopen => ?_, fun id id' e e' he he' howner hend => ?_,
    fun id id' e e' he he' hkind hledger hopen hopen' => ?_⟩
  · obtain ⟨e, hold, ⟨hwithin, rfl⟩ | ⟨hout, rfl⟩⟩ := h.before he'
    · exact absurd hopen (h.not_open kind hold hwithin)
    · refine (hinv.owners_live id e' hold hopen).cascade h fun k hk hwithin => hout ?_
      exact hwithin.head (parent_eq_some.mpr ⟨e', holds_of_entry hold, hk⟩)
  · obtain ⟨up, hup, hcase⟩ := h.before he
    obtain ⟨down, hdown, hcase'⟩ := h.before he'
    have hedge : down.owner.key = some up.key := by
      rcases hcase with ⟨-, rfl⟩ | ⟨-, rfl⟩ <;> rcases hcase' with ⟨-, rfl⟩ | ⟨-, rfl⟩ <;>
        exact howner
    have hold : up.lifecycle.is_terminal → e'.lifecycle.is_terminal := fun hterminal =>
      hends id' down e' hdown he' (hinv.ends_below id id' up down hup hdown hedge hterminal)
    rcases hcase with ⟨hwithin, rfl⟩ | ⟨-, rfl⟩
    · -- the owner is in the subtree, and so is the child
      have hbelow : Within t.parent down.key root :=
        hwithin.head (parent_eq_some.mpr ⟨down, holds_of_entry hdown, hedge⟩)
      cases hnext : next up.lifecycle with
      | none => exact hold (by rw [after, hnext] at hend; exact hend)
      | some l =>
        rw [after, hnext] at hend
        rcases hcase' with ⟨-, rfl⟩ | ⟨hnot, -⟩
        · rcases kind.uniform with hall | hnone
          · cases hnext' : next down.lifecycle with
            | none =>
              rw [after, hnext']
              rcases h.goes id' down hdown hbelow with hgoes | hterminal
              · rw [hnext'] at hgoes
                cases hgoes
              · exact hterminal
            | some l' =>
              rw [after, hnext']
              exact hall _ _ hnext'
          · rw [show (some l).getD up.lifecycle = l from rfl, hnone _ _ hnext] at hend
            cases hend
        · exact absurd hbelow hnot
    · exact hold hend
  · obtain ⟨old, hold, hcase⟩ := h.before he
    obtain ⟨old', hold', hcase'⟩ := h.before he'
    have hsame : old.object_kind = old'.object_kind ∧ old.ledger_id = old'.ledger_id := by
      rcases hcase with ⟨-, rfl⟩ | ⟨-, rfl⟩ <;> rcases hcase' with ⟨-, rfl⟩ | ⟨-, rfl⟩ <;>
        exact ⟨hkind, hledger⟩
    exact hinv.one_binding id id' old old' hold hold' hsame.1 hsame.2
      (fun hend => hopen (hends id old e hold he hend))
      (fun hend => hopen' (hends id' old' e' hold' he' hend))

end Cascades

theorem Owned.step (hinv : t.Owned) (h : TableStep t t') : t'.Owned := by
  cases h with
  | same h => exact hinv.of_entries h
  | inserted entry h fresh alone owner => exact hinv.inserted h fresh alone owner
  | committed id entry found prepared h =>
    exact hinv.committed found prepared h
      ((TableStep.committed id entry found prepared h).acyclic hinv.acyclic)
  | cascade root next kind h => exact hinv.cascade kind h

theorem owned_empty : Owned {} where
  acyclic := acyclic_empty
  owners_live _ _ he := nomatch he
  ends_below _ _ _ _ he := nomatch he
  one_binding _ _ _ _ he := nomatch he

theorem Owned.apply (hinv : t.Owned) {call : TableCall} (hkeeps : Keeps call) :
    ∃ t', call.apply t = some t' ∧ t'.Owned := by
  obtain ⟨t', happly, hstep⟩ := apply_step hinv.acyclic hkeeps
  exact ⟨t', happly, hinv.step hstep⟩

/-- What is below an end is at its end, over the whole subtree. -/
theorem Owned.subtree_ends (hinv : t.Owned) {k' : ObjectKey} {e' : RuntimeObjectEntry}
    (he : t.Holds k e) (hend : e.lifecycle.is_terminal) (hbelow : Below t.parent k' k)
    (he' : t.Holds k' e') : e'.lifecycle.is_terminal := by
  induction hbelow using TransGen.head_induction_on generalizing e' with
  | single hedge =>
    rw [ChildOf, he'.parent_eq, ← he.key_eq] at hedge
    exact hinv.ends_below _ _ e e' he.1 he'.1 hedge hend
  | @head a b hedge hrest ih =>
    -- the owner of the entry has an owner itself, so it is an entry
    obtain ⟨c, hc, -⟩ := TransGen.head'_iff.mp hrest
    obtain ⟨up, hup, -⟩ := parent_eq_some.mp hc
    rw [ChildOf, he'.parent_eq, ← hup.key_eq] at hedge
    exact hinv.ends_below _ _ up e' hup.1 he'.1 hedge (ih hup)

/-! ## What a cascade changes -/

inductive CascadeCall
  | begin_close (step : tuner_hal2_resource_ledger.CleanupStep)
  | mark_cleanup_failed (step : tuner_hal2_resource_ledger.CleanupStep)
  | commit_close
  | quarantine

/-- The lifecycle that the cascade writes. -/
def CascadeCall.lifecycle : CascadeCall → RuntimeObjectLifecycle
  | begin_close step => .Closing step
  | mark_cleanup_failed step => .CleanupPending step
  | commit_close => .Closed
  | quarantine => .Quarantined

/-- The cascade, with the entries that it returns. -/
def CascadeCall.apply (t : RuntimeObjectTable) (id : AidlObjectId)
    (generation : AidlObjectGeneration) : CascadeCall → Answer (List RuntimeObjectEntry)
  | begin_close step =>
    (t.begin_close_cascade_with_cleanup_authority id generation step).map fun answer =>
      (answer.1, answer.2.map Prod.fst)
  | mark_cleanup_failed step => t.mark_cleanup_failed_cascade id generation step
  | commit_close => t.commit_close_cascade id generation
  | quarantine => t.quarantine_cascade id generation

/-- Exactly the entries of the subtree that were not at their end got the lifecycle, and they are
the ones returned. -/
structure ClosesSubtree (t t' : RuntimeObjectTable) (root : ObjectKey)
    (lifecycle : RuntimeObjectLifecycle) (changed : List RuntimeObjectEntry) : Prop where
  returned : ∀ e', e' ∈ changed ↔ ∃ e, t.Holds e.key e ∧ Within t.parent e.key root ∧
    ¬ e.lifecycle.is_terminal ∧ e' = { e with lifecycle }
  written : ∀ id e, t.entry id = some e → Within t.parent e.key root →
    ¬ e.lifecycle.is_terminal → t'.entry id = some { e with lifecycle }
  kept : ∀ id, (∀ e, t.entry id = some e → Within t.parent e.key root →
    e.lifecycle.is_terminal) → t'.entry id = t.entry id

theorem closes_subtree {root : ObjectKey} {lifecycle : RuntimeObjectLifecycle}
    {next : NextLifecycle}
    {changed : List RuntimeObjectEntry} (kind : CascadeKind next)
    (hnext : ∀ l l', next l = some l' → l' = lifecycle) (hchanged : ChangedBy t root next changed)
    (h : Cascade t t' root next) : ClosesSubtree t t' root lifecycle changed := by
  have hgoes : ∀ id e, t.entry id = some e → Within t.parent e.key root →
      ¬ e.lifecycle.is_terminal → next e.lifecycle = some lifecycle := by
    intro id e he hwithin hopen
    rcases h.goes id e he hwithin with hsome | hend
    · obtain ⟨l, hl⟩ := Option.isSome_iff_exists.mp hsome
      rw [hl, hnext _ _ hl]
    · exact absurd hend hopen
  refine ⟨fun e' => ?_, fun id e he hwithin hopen => ?_, fun id hends => ?_⟩
  · rw [hchanged e']
    constructor
    · rintro ⟨e, l, hholds, hwithin, hl, rfl⟩
      refine ⟨e, hholds, hwithin, fun hend => ?_, by rw [hnext _ _ hl]⟩
      rw [kind.keeps_end _ hend] at hl
      cases hl
    · rintro ⟨e, hholds, hwithin, hopen, rfl⟩
      exact ⟨e, lifecycle, hholds, hwithin, hgoes _ e hholds.1 hwithin hopen, rfl⟩
  · rw [h.inside id e he hwithin, after, hgoes id e he hwithin hopen]
    rfl
  · cases he : t.entry id with
    | none => exact h.absent id he
    | some e =>
      by_cases hwithin : Within t.parent e.key root
      · rw [h.inside id e he hwithin, after_end kind (hends e he hwithin)]
      · exact h.outside id e he hwithin

/-- A cascade that returns closes its subtree, and one that fails changes no entry. -/
def Closes (t : RuntimeObjectTable) (root : ObjectKey) (lifecycle : RuntimeObjectLifecycle) :
    RuntimeObjectTable × TableResult (List RuntimeObjectEntry) → Prop
  | (t', .ok changed) => ClosesSubtree t t' root lifecycle changed
  | (t', .error _) => t'.entries = t.entries

theorem CascadeCall.apply_spec (hacyclic : Acyclic t.parent) (cascade : CascadeCall)
    {generation : AidlObjectGeneration}
    {answer : RuntimeObjectTable × TableResult (List RuntimeObjectEntry)}
    (h : cascade.apply t id generation = some answer) :
    Closes t (id, generation) cascade.lifecycle answer := by
  have hfinalize {lifecycle} (kind : CascadeKind (finalized lifecycle))
      (h : t.finalize_cascade id generation lifecycle = some answer) :
      Closes t (id, generation) lifecycle answer := by
    rcases finalize_cascade.cases hacyclic id generation lifecycle with
      ⟨error, heq⟩ | ⟨t', changed, heq, -, hchanged, hcascade⟩ <;> cases heq.symm.trans h
    · rfl
    · refine closes_subtree kind (fun l l' hl => ?_) hchanged hcascade
      cases l <;> cases hl <;> rfl
  cases cascade with
  | mark_cleanup_failed step | commit_close =>
    exact hfinalize (cascade_kind_finalized ⟨nofun, nofun⟩) h
  | begin_close step =>
    rcases begin_close.cases hacyclic id generation step with
      ⟨error, heq⟩ | ⟨t', changed, heq, -, hchanged, hcascade⟩ <;>
      rw [CascadeCall.apply, heq] at h <;> cases h
    · rfl
    · refine closes_subtree (cascade_kind_closing step) (fun l l' hl => ?_) hchanged hcascade
      cases l <;> cases hl <;> rfl
  | quarantine =>
    rcases quarantine_cascade.cases hacyclic id generation with
      ⟨error, heq⟩ | ⟨t', changed, heq, -, hchanged, hcascade⟩ <;> cases heq.symm.trans h
    · rfl
    · refine closes_subtree cascade_kind_quarantine (fun l l' hl => ?_) hchanged hcascade
      cases l <;> cases hl <;> rfl

/-- After any calls that take no object out: a live or prepared object has live owners up to the
root, of the kinds and generations that are named; all objects below one that is closed or in
quarantine are too; no two open objects are bound to one resource. A cascade that succeeds changes
exactly the open objects of its subtree, and one that fails changes none. -/
theorem ownership_is_consistent {calls : List TableCall} (hkeeps : ∀ call ∈ calls, Keeps call) :
    ∃ t, run_calls {} calls = some t ∧
      (∀ id e, t.entry id = some e → e.lifecycle = .Live ∨ e.lifecycle = .Prepared →
        t.OwnerLive e.owner) ∧
      (∀ k k' e e', t.Holds k e → e.lifecycle.is_terminal → t.Holds k' e' → Below t.parent k' k →
        e'.lifecycle.is_terminal) ∧
      (∀ id id' e e', t.entry id = some e → t.entry id' = some e' →
        e.object_kind = e'.object_kind → e.ledger_id = e'.ledger_id →
        ¬ e.lifecycle.is_terminal → ¬ e'.lifecycle.is_terminal → id = id') ∧
      (∀ (cascade : CascadeCall) id generation t' changed,
        cascade.apply t id generation = some (t', .ok changed) →
          ClosesSubtree t t' (id, generation) cascade.lifecycle changed) ∧
      (∀ (cascade : CascadeCall) id generation t' error,
        cascade.apply t id generation = some (t', .error error) → t'.entries = t.entries) ∧
      ∀ id generation attempt outcome t' error,
        t.finish_close_cleanup_attempt id generation attempt outcome = some (t', .error error) →
          t'.entries = t.entries := by
  obtain ⟨t, hrun, howned⟩ := run_calls_keeps
    (fun t ht call hcall => ht.apply (hkeeps call hcall)) owned_empty
  refine ⟨t, hrun, howned.owners_live,
    fun k k' e e' he hend he' hbelow => howned.subtree_ends he hend hbelow he', howned.one_binding,
    fun cascade id generation t' changed h => cascade.apply_spec howned.acyclic h,
    fun cascade id generation t' error h => cascade.apply_spec howned.acyclic h,
    fun id generation attempt outcome t' error h => ?_⟩
  rcases finish_attempt.cases howned.acyclic id generation attempt outcome with
    ⟨e, heq⟩ | ⟨t', changed, heq, -⟩ <;> cases heq.symm.trans h
  rfl

/-! ## A demux with a filter -/

namespace DemuxWithFilter

def demux : RuntimeObjectEntry := ⟨.Demux, 10, 1, 10, 1, .Root, .Live⟩

def filter : RuntimeObjectEntry := ⟨.Filter, 11, 1, 11, 1, .Demux 10 1, .Live⟩

/-- The demux closes with its filter, and a new demux takes its place. -/
def calls : List TableCall :=
  [.insert demux, .insert_prepared filter, .commit_prepared 11 1, .begin_close 10 1 .StopWorker,
    .commit_close 10 1, .insert demux]

/-- The new demux is live, and the filter of the old one is closed below it. -/
theorem new_demux_over_closed_filter :
    ((run_calls {} calls).map fun t => ((t.entry 10).map (·.lifecycle),
      (t.entry 11).map (·.lifecycle), t.owned_keys (10, 1))) =
        some (some .Live, some .Closed, [(11, 1)]) ∧
    ∃ t, run_calls {} calls = some t ∧ ∀ id e, t.entry id = some e →
      e.lifecycle = .Live ∨ e.lifecycle = .Prepared → t.OwnerLive e.owner := by
  have hkeeps : ∀ call ∈ calls, Keeps call := by simp [calls, Keeps]
  refine ⟨by decide +kernel, ?_⟩
  obtain ⟨t, hrun, howners, -⟩ := ownership_is_consistent hkeeps
  exact ⟨t, hrun, howners⟩

end DemuxWithFilter

end tuner_hal2_service_runtime.RuntimeObjectTable
