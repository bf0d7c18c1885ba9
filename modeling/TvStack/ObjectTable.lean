-- The table of the objects that clients hold: each entry names its owner, a close
-- goes down to all objects that the closed one owns, and the cleanup after it is one
-- attempt at a time under an authority.
import TvStack.Forests
import TvStack.ResourceLedger

open Forests Words

namespace tuner_hal2_service_runtime

open tuner_hal2_resource_ledger (CleanupStep LedgerId LedgerGeneration)

abbrev AidlObjectId := Int

abbrev AidlObjectGeneration := Nat

/-- What a handle names. -/
abbrev ObjectKey := AidlObjectId × AidlObjectGeneration

inductive AidlObjectKind
  | Tuner
  | Frontend
  | Demux
  | Filter
  | Dvr
  | Descrambler
  | Lnb
  deriving DecidableEq

/-! ## The obligations of cleanup -/

structure CloseCleanupObligation where
  generation : AidlObjectGeneration
  obligation_id : Nat
  active_attempt : Option Nat
  deriving DecidableEq

structure CloseCleanupAuthorityKey where
  obligation_id : Nat

structure CloseCleanupAttemptKey where
  obligation_id : Nat
  attempt_id : Nat

inductive CloseCleanupAttemptOutcome
  | Complete
  | Pending (step : CleanupStep)

inductive ObjectCloseTxnStateError
  | InvalidAuthority
  | IdentifierExhausted
  deriving DecidableEq

structure ObjectCloseTxn where
  obligations : OrdMap AidlObjectId CloseCleanupObligation := {}
  next_obligation_id : Nat := 0
  next_attempt_id : Nat := 0

namespace ObjectCloseTxn

variable (txn : ObjectCloseTxn) (object_id : AidlObjectId) (generation : AidlObjectGeneration)

def clear_obligation : ObjectCloseTxn :=
  { txn with obligations := txn.obligations.erase object_id }

def issue_cleanup_authority :
    ObjectCloseTxn × Except ObjectCloseTxnStateError CloseCleanupAuthorityKey :=
  match txn.obligations.get object_id with
  | some obligation =>
    if obligation.generation ≠ generation ∨ obligation.active_attempt.isSome then
      (txn, .error .InvalidAuthority)
    else (txn, .ok ⟨obligation.obligation_id⟩)
  | none =>
    match (checked_add U64_MAX txn.next_obligation_id 1).filter (· ≠ 0) with
    | none => (txn, .error .IdentifierExhausted)
    | some obligation_id =>
      ({ txn with
          next_obligation_id := obligation_id
          obligations := txn.obligations.insert object_id
            { generation, obligation_id, active_attempt := none } }, .ok ⟨obligation_id⟩)

def begin_cleanup_attempt (authority : CloseCleanupAuthorityKey) :
    ObjectCloseTxn × Except ObjectCloseTxnStateError CloseCleanupAttemptKey :=
  match txn.obligations.get object_id with
  | none => (txn, .error .InvalidAuthority)
  | some obligation =>
    if obligation.generation ≠ generation ∨ obligation.obligation_id ≠ authority.obligation_id ∨
        obligation.active_attempt.isSome then (txn, .error .InvalidAuthority)
    else
      match (checked_add U64_MAX txn.next_attempt_id 1).filter (· ≠ 0) with
      | none => (txn, .error .IdentifierExhausted)
      | some attempt_id =>
        ({ txn with
            next_attempt_id := attempt_id
            obligations := txn.obligations.insert object_id
              { obligation with active_attempt := some attempt_id } },
          .ok ⟨authority.obligation_id, attempt_id⟩)

variable (attempt : CloseCleanupAttemptKey)

def attempt_is_current : Bool :=
  (txn.obligations.get object_id).any fun obligation =>
    obligation.generation = generation ∧ obligation.obligation_id = attempt.obligation_id ∧
      obligation.active_attempt = some attempt.attempt_id

def finish_cleanup_attempt (complete : Bool) :
    ObjectCloseTxn × Except ObjectCloseTxnStateError Unit :=
  if ¬ txn.attempt_is_current object_id generation attempt then (txn, .error .InvalidAuthority)
  else if complete then
    ({ txn with obligations := txn.obligations.erase object_id }, .ok ())
  else
    match txn.obligations.get object_id with
    | none => (txn, .error .InvalidAuthority)
    | some obligation =>
      ({ txn with
          obligations := txn.obligations.insert object_id
            { obligation with active_attempt := none } }, .ok ())

end ObjectCloseTxn

/-! ## Entries -/

inductive RuntimeOwnerRelation
  | Root
  | Frontend (frontend : AidlObjectId) (generation : AidlObjectGeneration)
  | Demux (demux : AidlObjectId) (generation : AidlObjectGeneration)
  | Filter (filter : AidlObjectId) (generation : AidlObjectGeneration)
  | Dvr (dvr : AidlObjectId) (generation : AidlObjectGeneration)
  | Descrambler (descrambler : AidlObjectId) (generation : AidlObjectGeneration)
  | Lnb (lnb : AidlObjectId) (generation : AidlObjectGeneration)
  deriving DecidableEq

namespace RuntimeOwnerRelation

def referenced_object : RuntimeOwnerRelation → Option (AidlObjectKind × ObjectKey)
  | Root => none
  | Frontend id generation => some (.Frontend, id, generation)
  | Demux id generation => some (.Demux, id, generation)
  | Filter id generation => some (.Filter, id, generation)
  | Dvr id generation => some (.Dvr, id, generation)
  | Descrambler id generation => some (.Descrambler, id, generation)
  | Lnb id generation => some (.Lnb, id, generation)

variable (owner : RuntimeOwnerRelation)

/-- The handle of the owner. -/
def key : Option ObjectKey := owner.referenced_object.map Prod.snd

def owns (owner_key : ObjectKey) : Bool := owner.key = some owner_key

end RuntimeOwnerRelation

inductive RuntimeObjectLifecycle
  | Prepared
  | Live
  | Closing (step : CleanupStep)
  | CleanupPending (step : CleanupStep)
  | Closed
  | Quarantined
  deriving DecidableEq

namespace RuntimeObjectLifecycle

def is_live : RuntimeObjectLifecycle → Bool
  | Live => true
  | _ => false

def is_terminal : RuntimeObjectLifecycle → Bool
  | Closed | Quarantined => true
  | _ => false

end RuntimeObjectLifecycle

/-- The next lifecycle, where there is one. -/
abbrev NextLifecycle := RuntimeObjectLifecycle → Option RuntimeObjectLifecycle

structure RuntimeObjectEntry where
  object_kind : AidlObjectKind
  object_id : AidlObjectId
  generation : AidlObjectGeneration
  ledger_id : LedgerId
  ledger_generation : LedgerGeneration
  owner : RuntimeOwnerRelation
  lifecycle : RuntimeObjectLifecycle
  deriving DecidableEq

def RuntimeObjectEntry.key (entry : RuntimeObjectEntry) : ObjectKey :=
  (entry.object_id, entry.generation)

inductive RuntimeObjectTableError
  | DuplicateObjectId (object_id : AidlObjectId) (existing_kind attempted_kind : AidlObjectKind)
  | DuplicateRuntimeBinding (object_kind : AidlObjectKind) (runtime_id : LedgerId)
  | MissingObject (object_id : AidlObjectId)
  | GenerationMismatch (object_id : AidlObjectId) (expected actual : AidlObjectGeneration)
  | MissingOwner (object_id owner_id : AidlObjectId) (owner_kind : AidlObjectKind)
  | OwnerGenerationMismatch (object_id owner_id : AidlObjectId)
      (expected actual : AidlObjectGeneration)
  | OwnerKindMismatch (object_id owner_id : AidlObjectId) (expected actual : AidlObjectKind)
  | OwnerNotLive (object_id owner_id : AidlObjectId) (lifecycle : RuntimeObjectLifecycle)
  | InvalidLifecycle (object_id : AidlObjectId) (lifecycle : RuntimeObjectLifecycle)
  | GenerationOverflow
  deriving DecidableEq

/-- What an operation of the table gives. -/
abbrev TableResult := Except RuntimeObjectTableError

/-- Entries, each under its own id. -/
structure ObjectEntries where
  map : OrdMap AidlObjectId RuntimeObjectEntry := {}
  keyed : ∀ {id entry}, map.get id = some entry → entry.object_id = id := by
    intro id entry h
    cases h

namespace ObjectEntries

def get (es : ObjectEntries) (id : AidlObjectId) : Option RuntimeObjectEntry := es.map.get id

def values (es : ObjectEntries) : List RuntimeObjectEntry := es.map.values

def insert (es : ObjectEntries) (entry : RuntimeObjectEntry) : ObjectEntries where
  map := es.map.insert entry.object_id entry
  keyed := by
    intro id entry' h
    rw [OrdMap.get_insert] at h
    split at h
    · rename_i hid
      cases h
      exact hid.symm
    · exact es.keyed h

def erase (es : ObjectEntries) (id : AidlObjectId) : ObjectEntries where
  map := es.map.erase id
  keyed := by
    intro id' entry h
    rw [OrdMap.get_erase] at h
    split at h
    · cases h
    · exact es.keyed h

variable (es : ObjectEntries) (entry : RuntimeObjectEntry) (id : AidlObjectId)

theorem get_insert : (es.insert entry).get id =
    if id = entry.object_id then some entry else es.get id := OrdMap.get_insert ..

theorem get_erase (gone : AidlObjectId) : (es.erase gone).get id =
    if id = gone then none else es.get id := OrdMap.get_erase ..

variable {es entry id}

theorem object_id_of_get (h : es.get id = some entry) : entry.object_id = id := es.keyed h

theorem mem_values : entry ∈ es.values ↔ es.get entry.object_id = some entry := by
  rw [values, OrdMap.values, List.mem_map]
  constructor
  · rintro ⟨⟨id, e⟩, hmem, rfl⟩
    have hget := es.map.get_eq_some.mpr hmem
    rw [es.keyed hget]
    exact hget
  · intro h
    exact ⟨_, es.map.get_eq_some.mp h, rfl⟩

end ObjectEntries

/-! ## The table -/

structure RuntimeObjectTable where
  entries : ObjectEntries := {}
  object_close_txn : ObjectCloseTxn := {}

namespace RuntimeObjectTable

/-- The table after a call, and what the call returns. There is none when the call does not return:
it goes up or down the owners without end. -/
abbrev Answer (α : Type) := Option (RuntimeObjectTable × TableResult α)

variable (t : RuntimeObjectTable) (object_id : AidlObjectId) (generation : AidlObjectGeneration)

def entry : Option RuntimeObjectEntry := t.entries.get object_id

/-- No path along the owners is longer than the number of entries, unless it comes back. -/
def depth : Nat := t.entries.values.length + 1

def ensure_owner_live_within : Nat → AidlObjectId → RuntimeOwnerRelation →
    Option (TableResult Unit)
  | 0, _, _ => none
  | fuel + 1, object_id, owner =>
    match owner.referenced_object with
    | none => some (.ok ())
    | some (owner_kind, owner_id, owner_generation) =>
      match t.entry owner_id with
      | none => some (.error (.MissingOwner object_id owner_id owner_kind))
      | some owner_entry =>
        if owner_entry.object_kind ≠ owner_kind then
          some (.error (.OwnerKindMismatch object_id owner_id owner_kind owner_entry.object_kind))
        else if owner_entry.generation ≠ owner_generation then
          some (.error (.OwnerGenerationMismatch object_id owner_id owner_entry.generation
            owner_generation))
        else if ¬ owner_entry.lifecycle.is_live then
          some (.error (.OwnerNotLive object_id owner_id owner_entry.lifecycle))
        else ensure_owner_live_within fuel owner_id owner_entry.owner

def ensure_owner_live_for (owner : RuntimeOwnerRelation) : Option (TableResult Unit) :=
  t.ensure_owner_live_within t.depth object_id owner

/-- `direct`: the entries that name this owner, whatever kind they name. -/
def owned_keys (owner_key : ObjectKey) : List ObjectKey :=
  (t.entries.values.filter (·.owner.owns owner_key)).map (·.key)

def descendant_object_keys : Option (List ObjectKey) :=
  descend t.owned_keys t.depth (object_id, generation)

def entry_checked_any : TableResult RuntimeObjectEntry :=
  match t.entry object_id with
  | none => .error (.MissingObject object_id)
  | some entry =>
    if entry.generation ≠ generation then
      .error (.GenerationMismatch object_id entry.generation generation)
    else .ok entry

def entry_checked : TableResult RuntimeObjectEntry :=
  match t.entry_checked_any object_id generation with
  | .error error => .error error
  | .ok entry =>
    if ¬ entry.lifecycle.is_live then .error (.InvalidLifecycle object_id entry.lifecycle)
    else .ok entry

variable (entry : RuntimeObjectEntry) (lifecycle : RuntimeObjectLifecycle) (step : CleanupStep)

def put : RuntimeObjectTable :=
  { t with entries := t.entries.insert entry }

/-! ### Objects come and go -/

/-- An entry that stands in the way of a new one: the same id, or the same resource. -/
def duplicate_of : Option RuntimeObjectTableError :=
  match (t.entry entry.object_id).filter (¬ ·.lifecycle.is_terminal) with
  | some existing =>
    some (.DuplicateObjectId entry.object_id existing.object_kind entry.object_kind)
  | none =>
    if t.entries.values.any fun existing => existing.object_kind = entry.object_kind ∧
        existing.ledger_id = entry.ledger_id ∧ ¬ existing.lifecycle.is_terminal then
      some (.DuplicateRuntimeBinding entry.object_kind entry.ledger_id)
    else none

def insert_with_lifecycle : Answer Unit :=
  match t.duplicate_of entry with
  | some error => some (t, .error error)
  | none =>
    (t.ensure_owner_live_for entry.object_id entry.owner).map fun checked =>
      match checked with
      | .error error => (t, .error error)
      | .ok () =>
        ({ entries := t.entries.insert { entry with lifecycle }
           object_close_txn := t.object_close_txn.clear_obligation entry.object_id }, .ok ())

def insert : Answer Unit := t.insert_with_lifecycle entry .Live

def insert_prepared : Answer Unit :=
  t.insert_with_lifecycle entry .Prepared

def commit_prepared : RuntimeObjectTable × TableResult RuntimeObjectEntry :=
  match t.entry_checked_any object_id generation with
  | .error error => (t, .error error)
  | .ok entry =>
    if entry.lifecycle ≠ .Prepared then (t, .error (.InvalidLifecycle object_id entry.lifecycle))
    else (t.put { entry with lifecycle := .Live }, .ok { entry with lifecycle := .Live })

def remove : RuntimeObjectTable × TableResult RuntimeObjectEntry :=
  match t.entry_checked object_id generation with
  | .error error => (t, .error error)
  | .ok entry =>
    ({ entries := t.entries.erase object_id
       object_close_txn := t.object_close_txn.clear_obligation object_id }, .ok entry)

def clear (_t : RuntimeObjectTable) : RuntimeObjectTable := {}

/-! ### Cascades -/

/-- The loop of a cascade over its targets: the entries with their next lifecycle. An entry at its
end is left out, unless it is the root; any other entry that does not go on stops the cascade. -/
def collect_cascade (root : ObjectKey)
    (next : NextLifecycle) :
    List ObjectKey → TableResult (List RuntimeObjectEntry)
  | [] => .ok []
  | target :: rest =>
    match t.entry_checked_any target.1 target.2 with
    | .error error => .error error
    | .ok entry =>
      match next entry.lifecycle with
      | some lifecycle =>
        (collect_cascade root next rest).map ({ entry with lifecycle } :: ·)
      | none =>
        if entry.lifecycle.is_terminal ∧ target ≠ root then collect_cascade root next rest
        else .error (.InvalidLifecycle target.1 entry.lifecycle)

/-- The entries that a cascade changes. -/
def plan_cascade (next : NextLifecycle) : Option (TableResult (List RuntimeObjectEntry)) :=
  match t.entry_checked_any object_id generation with
  | .error error => some (.error error)
  | .ok root =>
    if (next root.lifecycle).isNone then some (.error (.InvalidLifecycle object_id root.lifecycle))
    else
      (t.descendant_object_keys object_id generation).map fun targets =>
        t.collect_cascade (object_id, generation) next (targets ++ [(object_id, generation)])

def write_entries (changed : List RuntimeObjectEntry) : RuntimeObjectTable :=
  changed.foldl put t

def close_txn_error (object_id : AidlObjectId) (lifecycle : RuntimeObjectLifecycle) :
    ObjectCloseTxnStateError → RuntimeObjectTableError
  | .InvalidAuthority => .InvalidLifecycle object_id lifecycle
  | .IdentifierExhausted => .GenerationOverflow

/-- Live objects and those whose close goes on start to close. -/
def closing_next : NextLifecycle
  | .Live | .Closing _ | .CleanupPending _ => some (.Closing step)
  | _ => none

def begin_close_cascade_with_cleanup_authority :
    Answer (List RuntimeObjectEntry × CloseCleanupAuthorityKey) :=
  match t.entry_checked_any object_id generation with
  | .error error => some (t, .error error)
  | .ok root =>
    (t.plan_cascade object_id generation (closing_next step)).map fun plan =>
      match plan with
      | .error error => (t, .error error)
      | .ok changed =>
        match t.object_close_txn.issue_cleanup_authority object_id generation with
        | (_, .error error) => (t, .error (close_txn_error object_id root.lifecycle error))
        | (object_close_txn, .ok authority) =>
          ({ t with object_close_txn }.write_entries changed, .ok (changed, authority))

/-- A close that goes on ends in this lifecycle. -/
def finalized : NextLifecycle
  | .Closing _ | .CleanupPending _ => some lifecycle
  | _ => none

/-- The frame of `mark_cleanup_failed_cascade` and `commit_close_cascade`. -/
def finalize_cascade : Answer (List RuntimeObjectEntry) :=
  (t.plan_cascade object_id generation (finalized lifecycle)).map fun plan =>
    match plan with
    | .error error => (t, .error error)
    | .ok changed => (t.write_entries changed, .ok changed)

def mark_cleanup_failed_cascade : Answer (List RuntimeObjectEntry) :=
  t.finalize_cascade object_id generation (.CleanupPending step)

def commit_close_cascade : Answer (List RuntimeObjectEntry) :=
  t.finalize_cascade object_id generation .Closed

/-- The loop of `quarantine_cascade`. It writes as it goes. -/
def quarantine_targets (t : RuntimeObjectTable) :
    List ObjectKey → RuntimeObjectTable × TableResult (List RuntimeObjectEntry)
  | [] => (t, .ok [])
  | target :: rest =>
    match t.entry_checked_any target.1 target.2 with
    | .error error => (t, .error error)
    | .ok entry =>
      if entry.lifecycle.is_terminal then quarantine_targets t rest
      else
        let quarantined := { entry with lifecycle := .Quarantined }
        let (t, answer) := quarantine_targets (t.put quarantined) rest
        (t, answer.map (quarantined :: ·))

def quarantine_cascade : Answer (List RuntimeObjectEntry) :=
  match t.entry_checked_any object_id generation with
  | .error error => some (t, .error error)
  | .ok _ =>
    (t.descendant_object_keys object_id generation).map fun targets =>
      t.quarantine_targets (targets ++ [(object_id, generation)])

/-! ### Attempts -/

def begin_close_cleanup_attempt (authority : CloseCleanupAuthorityKey) :
    RuntimeObjectTable × TableResult CloseCleanupAttemptKey :=
  match t.entry_checked_any object_id generation with
  | .error error => (t, .error error)
  | .ok entry =>
    match entry.lifecycle with
    | .Closing _ | .CleanupPending _ =>
      match t.object_close_txn.begin_cleanup_attempt object_id generation authority with
      | (_, .error error) => (t, .error (close_txn_error object_id entry.lifecycle error))
      | (object_close_txn, .ok attempt) => ({ t with object_close_txn }, .ok attempt)
    | lifecycle => (t, .error (.InvalidLifecycle object_id lifecycle))

variable (attempt : CloseCleanupAttemptKey)

/-- What `finish_close_cleanup_attempt` does after its cascade. -/
def settle_attempt (lifecycle : RuntimeObjectLifecycle) (complete : Bool)
    (changed : List RuntimeObjectEntry) :
    RuntimeObjectTable × TableResult (List RuntimeObjectEntry) :=
  match t.object_close_txn.finish_cleanup_attempt object_id generation attempt complete with
  | (_, .error error) => (t, .error (close_txn_error object_id lifecycle error))
  | (object_close_txn, .ok ()) => ({ t with object_close_txn }, .ok changed)

def finish_close_cleanup_attempt (outcome : CloseCleanupAttemptOutcome) :
    Answer (List RuntimeObjectEntry) :=
  match t.entry_checked_any object_id generation with
  | .error error => some (t, .error error)
  | .ok entry =>
    if ¬ t.object_close_txn.attempt_is_current object_id generation attempt then
      some (t, .error (.InvalidLifecycle object_id entry.lifecycle))
    else
      let (cascade, complete) := match outcome with
        | .Complete => (t.commit_close_cascade object_id generation, true)
        | .Pending step => (t.mark_cleanup_failed_cascade object_id generation step, false)
      cascade.map fun answer =>
        match answer with
        | (t, .error error) => (t, .error error)
        | (t, .ok changed) =>
          t.settle_attempt object_id generation attempt entry.lifecycle complete changed

end RuntimeObjectTable

/-! ## Calls -/

inductive TableCall
  | insert (entry : RuntimeObjectEntry)
  | insert_prepared (entry : RuntimeObjectEntry)
  | commit_prepared (object_id : AidlObjectId) (generation : AidlObjectGeneration)
  | remove (object_id : AidlObjectId) (generation : AidlObjectGeneration)
  | clear
  | begin_close (object_id : AidlObjectId) (generation : AidlObjectGeneration) (step : CleanupStep)
  | begin_attempt (object_id : AidlObjectId) (generation : AidlObjectGeneration)
      (authority : CloseCleanupAuthorityKey)
  | finish_attempt (object_id : AidlObjectId) (generation : AidlObjectGeneration)
      (attempt : CloseCleanupAttemptKey) (outcome : CloseCleanupAttemptOutcome)
  | mark_cleanup_failed (object_id : AidlObjectId) (generation : AidlObjectGeneration)
      (step : CleanupStep)
  | commit_close (object_id : AidlObjectId) (generation : AidlObjectGeneration)
  | quarantine (object_id : AidlObjectId) (generation : AidlObjectGeneration)

variable (t : RuntimeObjectTable)

/-- The table after a call. -/
def TableCall.apply : TableCall → Option RuntimeObjectTable
  | insert entry => (t.insert entry).map Prod.fst
  | insert_prepared entry => (t.insert_prepared entry).map Prod.fst
  | commit_prepared id generation => some (t.commit_prepared id generation).1
  | remove id generation => some (t.remove id generation).1
  | clear => some t.clear
  | begin_close id generation step =>
    (t.begin_close_cascade_with_cleanup_authority id generation step).map Prod.fst
  | begin_attempt id generation authority =>
    some (t.begin_close_cleanup_attempt id generation authority).1
  | finish_attempt id generation attempt outcome =>
    (t.finish_close_cleanup_attempt id generation attempt outcome).map Prod.fst
  | mark_cleanup_failed id generation step =>
    (t.mark_cleanup_failed_cascade id generation step).map Prod.fst
  | commit_close id generation => (t.commit_close_cascade id generation).map Prod.fst
  | quarantine id generation => (t.quarantine_cascade id generation).map Prod.fst

/-- The table after a list of calls. -/
def run_calls (calls : List TableCall) : Option RuntimeObjectTable :=
  calls.foldlM TableCall.apply t

end tuner_hal2_service_runtime
