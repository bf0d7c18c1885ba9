-- Descrambler sessions and the keys they hold. A session takes a reference to a key when
-- it is set and gives it back when it is replaced, cleared or cleaned up: the counts of
-- the key table are exact, and no key that is held fails to be given back.
import TvStack.DescramblerKeys
import TvStack.PacketDecisions

open Words Machines

namespace tuner_hal2_service_runtime

open tuner_hal2_descrambler DescramblerKeyTable

deriving instance DecidableEq for SourceFilterRef, DescramblerPidClaim

/-! ## The Rust functions -/

inductive DescramblerSessionState
  | Open
  | Closed
  | CleanupPending
  | Quarantined
  deriving DecidableEq

inductive DescramblerSourceCallFailure
  | InvalidDemuxId
  | InvalidDemuxState
  | BindingCommitFailed
  deriving DecidableEq

inductive DescramblerSourceCallState
  | NeverCalledUnbound
  | CallConsumedUnbound (failure : Option DescramblerSourceCallFailure)
  | Bound
  deriving DecidableEq

structure DescramblerSession where
  demux_id : Option Int := none
  demux_generation : Option Nat := none
  source_call_state : DescramblerSourceCallState := .NeverCalledUnbound
  key_token : Option DescramblerKeyToken := none
  key_slot : Option DescramblerKeySlotId := none
  pending_key_releases : List DescramblerKeyToken := []
  pid_claims : List DescramblerPidClaim := []
  state : DescramblerSessionState := .Open

inductive DescramblerSessionTxnStep
  | ValidateOpen
  | ValidateDemux
  | ReplaceKey
  | CleanupPidClaims
  | CleanupKey
  | CleanupDemuxBinding
  | Commit
  deriving DecidableEq

inductive DescramblerSessionFailureKind
  | SessionClosed
  | DemuxNotBound
  | DemuxAlreadyBound
  | ClearKeyPlanMismatch
  | ReplaceKeyPlanMismatch
  deriving DecidableEq

structure DescramblerSessionFailure where
  step : DescramblerSessionTxnStep
  kind : DescramblerSessionFailureKind

def session_closed : DescramblerSessionFailure := ⟨.ValidateOpen, .SessionClosed⟩

/-- The answer of a session change: the session after it. -/
abbrev SessionResult := Except DescramblerSessionFailure DescramblerSession

namespace DescramblerSession

variable (session : DescramblerSession)

def clear_key : DescramblerSession := { session with key_token := none, key_slot := none }

variable (token : DescramblerKeyToken) (claim : DescramblerPidClaim)

def set_key (key_slot : DescramblerKeySlotId) : DescramblerSession :=
  { session with key_token := some token, key_slot := some key_slot }

def add_pending_key_release : DescramblerSession :=
  if session.key_token ≠ some token ∧ token ∉ session.pending_key_releases then
    { session with pending_key_releases := session.pending_key_releases ++ [token] }
  else session

def add_pid_claim : DescramblerSession :=
  if claim ∈ session.pid_claims then session
  else
    { session with
      pid_claims := session.pid_claims.filter (fun stored => stored.pid ≠ claim.pid) ++ [claim] }

def remove_pid_claim : DescramblerSession :=
  { session with pid_claims := session.pid_claims.filter (· ≠ claim) }

def close_all : DescramblerSession :=
  { session.clear_key with
    pid_claims := []
    pending_key_releases := []
    demux_id := none
    demux_generation := none
    state := .Closed }

def quarantine : DescramblerSession := { session with state := .Quarantined }

def mark_cleanup_pending : DescramblerSession := { session with state := .CleanupPending }

def ensure_open : Except DescramblerSessionFailure Unit :=
  if session.state ≠ .Open then .error session_closed else .ok ()

end DescramblerSession

open DescramblerSession

variable {ρ : Type}

section UseCases

/-! ### The demux and its PIDs -/

variable (session : DescramblerSession) (claim : DescramblerPidClaim)

def begin_demux_source_call_use_case : SessionResult := do
  session.ensure_open
  if session.source_call_state ≠ .NeverCalledUnbound then
    throw ⟨.ValidateDemux, .DemuxAlreadyBound⟩
  pure { session with source_call_state := .CallConsumedUnbound none }

def commit_demux_binding_use_case (demux_id : Int) (generation : Nat) : SessionResult := do
  session.ensure_open
  if session.source_call_state ≠ .CallConsumedUnbound none ∨ session.demux_id.isSome ∨
      session.demux_generation.isSome then
    throw ⟨.ValidateDemux, .DemuxAlreadyBound⟩
  pure { session with
    demux_id := some demux_id
    demux_generation := some generation
    source_call_state := .Bound }

def record_source_call_failure (failure : DescramblerSourceCallFailure) :
    DescramblerSession × Bool :=
  match session.source_call_state with
  | .CallConsumedUnbound _ =>
    ({ session with source_call_state := .CallConsumedUnbound (some failure) }, true)
  | _ => (session, false)

/-- What the registry makes of the answer. -/
def record_descrambler_demux_source_call_failure_use_case
    (failure : DescramblerSourceCallFailure) : SessionResult :=
  match record_source_call_failure session failure with
  | (session, true) => .ok session
  | (_, false) => .error ⟨.ValidateDemux, .DemuxAlreadyBound⟩

def add_pid_claim_use_case : SessionResult := do
  session.ensure_open
  if session.demux_id.isNone then throw ⟨.ValidateDemux, .DemuxNotBound⟩
  pure (session.add_pid_claim claim)

def remove_pid_claim_use_case : SessionResult := do
  session.ensure_open
  pure (session.remove_pid_claim claim)

/-! ### The key -/

inductive DescramblerReplaceKeyPlan
  | AlreadyCurrent (expected_token : DescramblerKeyToken)
  | Replace (old_token : Option DescramblerKeyToken)

def plan_replace_key (token : DescramblerKeyToken) :
    Except DescramblerSessionFailure DescramblerReplaceKeyPlan := do
  session.ensure_open
  if session.key_token = some token then pure (.AlreadyCurrent token)
  else pure (.Replace session.key_token)

def commit_validated_replace_key (plan : DescramblerReplaceKeyPlan) (token : DescramblerKeyToken)
    (key_slot : DescramblerKeySlotId) : SessionResult := do
  session.ensure_open
  match plan with
  | .AlreadyCurrent expected_token =>
    if session.key_token = some expected_token then pure session
    else throw ⟨.ReplaceKey, .ReplaceKeyPlanMismatch⟩
  | .Replace old_token =>
    if session.key_token ≠ old_token then throw ⟨.ReplaceKey, .ReplaceKeyPlanMismatch⟩
    else pure (session.set_key token key_slot)

inductive DescramblerClearKeyPlan
  | NoKey
  | ClearExisting (token : DescramblerKeyToken) (key_slot : DescramblerKeySlotId)

namespace DescramblerClearKeyPlan

def old_token : DescramblerClearKeyPlan → Option DescramblerKeyToken
  | NoKey => none
  | ClearExisting token _ => some token

def matches_session (session : DescramblerSession) : DescramblerClearKeyPlan → Bool
  | NoKey => session.key_token.isNone ∧ session.key_slot.isNone
  | ClearExisting token key_slot =>
    session.key_token = some token ∧ session.key_slot = some key_slot

end DescramblerClearKeyPlan

def plan_clear_key : Except DescramblerSessionFailure DescramblerClearKeyPlan := do
  session.ensure_open
  match session.key_token, session.key_slot with
  | none, none => pure .NoKey
  | some token, some key_slot => pure (.ClearExisting token key_slot)
  | _, _ => throw ⟨.CleanupKey, .ClearKeyPlanMismatch⟩

def validate_clear_key_plan (plan : DescramblerClearKeyPlan) :
    Except DescramblerSessionFailure Unit := do
  session.ensure_open
  if plan.matches_session session then pure () else throw ⟨.CleanupKey, .ClearKeyPlanMismatch⟩

def prepare_clear_key_use_case : Except DescramblerSessionFailure DescramblerClearKeyPlan := do
  let plan ← plan_clear_key session
  validate_clear_key_plan session plan
  pure plan

def commit_prepared_clear_key_use_case (prepared : DescramblerClearKeyPlan) : SessionResult := do
  validate_clear_key_plan session prepared
  pure session.clear_key

inductive DescramblerClearKeyOutcome
  | AlreadyClear
  | Cleared
  | ClearedWithOldKeyReleaseFailure (release_old : DescramblerKeyLookupError)

inductive DescramblerReplaceKeyTxnError
  | Session (failure : DescramblerSessionFailure)
  | Acquire (error : DescramblerKeyLookupError)
  | Commit (failure : DescramblerSessionFailure)
      (rollback_release : Option DescramblerKeyLookupError)

inductive DescramblerReplaceKeyOutcome
  | AlreadyCurrent
  | Replaced
  | ReplacedWithOldKeyReleaseFailure (release_old : DescramblerKeyLookupError)

inductive DescramblerCleanupTxnError
  | Session (failure : DescramblerSessionFailure)
  | ReleaseKey (error : DescramblerKeyLookupError)

structure DescramblerCleanupReport where
  steps : List DescramblerSessionTxnStep

/-- What `cleanup_all` records. -/
def cleanup_report : DescramblerCleanupReport :=
  ⟨[.CleanupPidClaims, .CleanupKey, .CleanupDemuxBinding, .Commit]⟩

/-- The answer of a change that also takes or gives back keys: the session and the key table after
it, and what it returns. -/
abbrev KeyResult (ρ α : Type) := DescramblerSession × DescramblerKeyTable ρ × α

variable (t : DescramblerKeyTable ρ) (token : DescramblerKeyToken)

/-- The release of a key that the session gave up. When it fails, the session keeps the token for a
later cleanup and is quarantined. -/
def release_or_quarantine : KeyResult ρ (Option DescramblerKeyLookupError) :=
  match t.release token with
  | (t, .ok ()) => (session, t, none)
  | (t, .error error) => ((session.add_pending_key_release token).quarantine, t, some error)

def clear_key_use_case :
    KeyResult ρ (Except DescramblerSessionFailure DescramblerClearKeyOutcome) :=
  match prepare_clear_key_use_case session with
  | .error failure => (session, t, .error failure)
  | .ok prepared =>
    match commit_prepared_clear_key_use_case session prepared with
    | .error failure => (session, t, .error failure)
    | .ok session =>
      match prepared.old_token with
      | none => (session, t, .ok .AlreadyClear)
      | some token =>
        match release_or_quarantine session t token with
        | (session, t, none) => (session, t, .ok .Cleared)
        | (session, t, some release_old) =>
          (session, t, .ok (.ClearedWithOldKeyReleaseFailure release_old))

/-- What `replace` does once the new key is acquired. -/
def replace_acquired (old_token : Option DescramblerKeyToken) (key_slot : DescramblerKeySlotId) :
    KeyResult ρ (Except DescramblerReplaceKeyTxnError DescramblerReplaceKeyOutcome) :=
  match commit_validated_replace_key session (.Replace old_token) token key_slot with
  | .error failure =>
    let (session, t, rollback_release) := release_or_quarantine session t token
    (session, t, .error (.Commit failure rollback_release))
  | .ok session =>
    match old_token with
    | none => (session, t, .ok .Replaced)
    | some old_token =>
      match release_or_quarantine session t old_token with
      | (session, t, none) => (session, t, .ok .Replaced)
      | (session, t, some release_old) =>
        (session, t, .ok (.ReplacedWithOldKeyReleaseFailure release_old))

def replace_key_use_case :
    KeyResult ρ (Except DescramblerReplaceKeyTxnError DescramblerReplaceKeyOutcome) :=
  match plan_replace_key session token with
  | .error failure => (session, t, .error (.Session failure))
  | .ok (.AlreadyCurrent _) => (session, t, .ok .AlreadyCurrent)
  | .ok (.Replace old_token) =>
    match t.acquire token with
    | (t, .error error) => (session, t, .error (.Acquire error))
    | (t, .ok key_slot) => replace_acquired session t token old_token key_slot

/-- The releases that earlier failures left, with the first error. -/
def release_pending (session : DescramblerSession) (t : DescramblerKeyTable ρ)
    (release_error : Option DescramblerKeyLookupError) :
    List DescramblerKeyToken → KeyResult ρ (Option DescramblerKeyLookupError)
  | [] => (session, t, release_error)
  | token :: pending =>
    match t.release token with
    | (t, .ok ()) => release_pending session t release_error pending
    | (t, .error error) =>
      release_pending (session.add_pending_key_release token) t
        (release_error.or (some error)) pending

/-- The release of the current key at the start of a cleanup. -/
def release_current : KeyResult ρ (Option DescramblerKeyLookupError) :=
  match session.key_token with
  | none => (session, t, none)
  | some current_token =>
    match t.release current_token with
    | (t, .ok ()) => (session.clear_key, t, none)
    | (t, .error error) => (session, t, some error)

def cleanup_all_use_case :
    KeyResult ρ (Except DescramblerCleanupTxnError DescramblerCleanupReport) :=
  let (session, t, release_error) := release_current session t
  let (session, t, release_error) :=
    release_pending { session with pending_key_releases := [] } t release_error
      session.pending_key_releases
  let session := { session with pid_claims := [] }
  match release_error with
  | some error => (session.mark_cleanup_pending, t, .error (.ReleaseKey error))
  | none => (session.close_all, t, .ok cleanup_report)

end UseCases

/-! ### The registry -/

/-- What the registry keeps of descramblers. -/
structure Descramblers (ρ : Type) where
  descrambler_runtimes : OrdMap Int DescramblerSession := {}
  descrambler_key_table : DescramblerKeyTable ρ := {}

inductive DescramblerCall (ρ : Type)
  | publish (token : DescramblerKeyToken) (reference : ρ)
  | discard (token : DescramblerKeyToken) (slot : DescramblerKeySlotId)
  | register (id : Int)
  | begin_demux_source_call (id : Int)
  | commit_demux_binding (id : Int) (demux_id : Int) (generation : Nat)
  | record_source_call_failure (id : Int) (failure : DescramblerSourceCallFailure)
  | add_pid_claim (id : Int) (claim : DescramblerPidClaim)
  | remove_pid_claim (id : Int) (claim : DescramblerPidClaim)
  | replace_key (id : Int) (token : DescramblerKeyToken)
  | clear_key (id : Int)
  | cleanup (id : Int)
  | unregister (id : Int)

inductive DescramblerAnswer
  | published (answer : Except DescramblerKeyPublishError DescramblerKeySlotId)
  | done
  | session (answer : Except DescramblerSessionFailure Unit)
  | replaced (answer : Except DescramblerReplaceKeyTxnError DescramblerReplaceKeyOutcome)
  | cleared (answer : Except DescramblerSessionFailure DescramblerClearKeyOutcome)
  | cleaned (answer : Except DescramblerCleanupTxnError DescramblerCleanupReport)

namespace Descramblers

variable (w : Descramblers ρ) (id : Int)

/-- A use case on the session of a descrambler and the key table; without a session the answer is
`missing`. -/
def with_session (missing : DescramblerAnswer)
    (use_case : DescramblerSession → DescramblerKeyTable ρ → KeyResult ρ DescramblerAnswer) :
    Descramblers ρ × DescramblerAnswer :=
  match w.descrambler_runtimes.get id with
  | none => (w, missing)
  | some session =>
    let (session, t, answer) := use_case session w.descrambler_key_table
    (⟨w.descrambler_runtimes.insert id session, t⟩, answer)

/-- A use case on the session alone, which stays as it is when the use case fails. -/
def with_session_only (use_case : DescramblerSession → SessionResult) :
    Descramblers ρ × DescramblerAnswer :=
  w.with_session id (.session (.error session_closed)) fun session t =>
    match use_case session with
    | .ok session => (session, t, .session (.ok ()))
    | .error failure => (session, t, .session (.error failure))

def register_descrambler : Descramblers ρ :=
  if (w.descrambler_runtimes.get id).isSome then w
  else { w with descrambler_runtimes := w.descrambler_runtimes.insert id {} }

def cleanup_descrambler_use_case : Descramblers ρ × DescramblerAnswer :=
  w.with_session id (.cleaned (.error (.Session session_closed))) fun session t =>
    let (session, t, answer) := cleanup_all_use_case session t
    (session, t, .cleaned answer)

/-- A descrambler is dropped only after a cleanup that succeeds. -/
def unregister_runtime : Descramblers ρ × DescramblerAnswer :=
  match w.cleanup_descrambler_use_case id with
  | (w, .cleaned (.ok report)) =>
    ({ w with descrambler_runtimes := w.descrambler_runtimes.erase id }, .cleaned (.ok report))
  | (w, answer) => (w, answer)

def step (call : DescramblerCall ρ) : Descramblers ρ × DescramblerAnswer :=
  match call with
  | .publish token reference =>
    ({ w with
        descrambler_key_table := (w.descrambler_key_table.publish token reference).1 },
      .published (w.descrambler_key_table.publish token reference).2)
  | .discard token slot =>
    ({ w with
        descrambler_key_table := w.descrambler_key_table.discard_if_unreferenced token slot },
      .done)
  | .register id => (w.register_descrambler id, .done)
  | .begin_demux_source_call id => w.with_session_only id begin_demux_source_call_use_case
  | .commit_demux_binding id demux_id generation =>
    w.with_session_only id (commit_demux_binding_use_case · demux_id generation)
  | .record_source_call_failure id failure =>
    w.with_session_only id (record_descrambler_demux_source_call_failure_use_case · failure)
  | .add_pid_claim id claim => w.with_session_only id (add_pid_claim_use_case · claim)
  | .remove_pid_claim id claim => w.with_session_only id (remove_pid_claim_use_case · claim)
  | .replace_key id token =>
    w.with_session id (.replaced (.error (.Session session_closed))) fun session t =>
      let (session, t, answer) := replace_key_use_case session t token
      (session, t, .replaced answer)
  | .clear_key id =>
    w.with_session id (.cleared (.error session_closed)) fun session t =>
      let (session, t, answer) := clear_key_use_case session t
      (session, t, .cleared answer)
  | .cleanup id => w.cleanup_descrambler_use_case id
  | .unregister id => w.unregister_runtime id

end Descramblers

/-! ## The counts of the key table -/

namespace DescramblerKeyTable

variable {t t' t'' : DescramblerKeyTable ρ} {token token' : DescramblerKeyToken}
  {state state' : DescramblerKeySlotState ρ}

/-- The references to a token; none to one that is not in the table. -/
def refcount (t : DescramblerKeyTable ρ) (token : DescramblerKeyToken) : Nat :=
  ((t.slots.get token).map (·.refcount)).getD 0

theorem refcount_eq (h : t.slots.get token = some state) : t.refcount token = state.refcount := by
  rw [refcount, h]
  rfl

theorem get_of_refcount (h : 0 < t.refcount token) : ∃ state, t.slots.get token = some state := by
  cases hget : t.slots.get token with
  | some state => exact ⟨state, rfl⟩
  | none =>
    rw [refcount, hget] at h
    cases h

theorem refcount_insert (next_slot : Nat) (token' : DescramblerKeyToken) :
    (⟨t.slots.insert token state, next_slot⟩ : DescramblerKeyTable ρ).refcount token' =
      if token' = token then state.refcount else t.refcount token' := by
  rw [refcount, FinMap.get_insert]
  split <;> rfl

theorem refcount_erase (next_slot : Nat) (token' : DescramblerKeyToken) :
    (⟨t.slots.erase token, next_slot⟩ : DescramblerKeyTable ρ).refcount token' =
      if token' = token then 0 else t.refcount token' := by
  rw [refcount, FinMap.get_erase]
  split <;> rfl

/-- A count that is given for one token only, where it is the count of that token. -/
theorem refcount_given {n : Nat} (h : n = t.refcount token) (token' : DescramblerKeyToken) :
    (if token' = token then n else t.refcount token') = t.refcount token' := by
  split
  · rename_i hsame
    rw [hsame, h]
  · rfl

/-- Every token of the second table is in the first with the same slot. -/
def KeepsSlots (t t' : DescramblerKeyTable ρ) : Prop :=
  ∀ token state', t'.slots.get token = some state' →
    ∃ state, t.slots.get token = some state ∧ state'.slot = state.slot

theorem KeepsSlots.refl (t : DescramblerKeyTable ρ) : t.KeepsSlots t :=
  fun _ state h => ⟨state, h, rfl⟩

theorem KeepsSlots.trans (h : t.KeepsSlots t') (h' : t'.KeepsSlots t'') : t.KeepsSlots t'' := by
  intro token state'' hget''
  obtain ⟨state', hget', hslot'⟩ := h' token state'' hget''
  obtain ⟨state, hget, hslot⟩ := h token state' hget'
  exact ⟨state, hget, hslot'.trans hslot⟩

/-- A token in both tables has one slot. -/
def SlotsAgree (t t' : DescramblerKeyTable ρ) : Prop :=
  ∀ token state state', t.slots.get token = some state → t'.slots.get token = some state' →
    state'.slot = state.slot

theorem KeepsSlots.agree (h : t.KeepsSlots t') : t.SlotsAgree t' := by
  intro token state state' hget hget'
  obtain ⟨old, hold, hslot⟩ := h token state' hget'
  cases hget.symm.trans hold
  exact hslot

theorem keepsSlots_step (call : KeyCall ρ)
    (h : ∀ token reference, call ≠ .publish token reference) : t.KeepsSlots (t.step call).1 := by
  intro token state' hget
  rcases get_of_step hget with ⟨state, hold, hcarries⟩ | ⟨hcall, -⟩
  · exact ⟨state, hold, hcarries.slot⟩
  · exact absurd hcall (h _ _)

section

variable (t)

theorem publish.spec (token : DescramblerKeyToken) (reference : ρ) :
    (∀ token', (t.publish token reference).1.refcount token' = t.refcount token') ∧
    t.SlotsAgree (t.publish token reference).1 := by
  constructor
  · intro token'
    rcases publish.cases t token reference with ⟨state, hget, heq⟩ | ⟨-, heq⟩ | ⟨hget, heq⟩ <;>
      rw [heq]
    · rw [refcount_insert, refcount_given (refcount_eq hget).symm]
    · rw [refcount_insert, refcount_given]
      rw [refcount, hget]
      rfl
  · intro token' state state' hget hget'
    have hstep : (t.step (.publish token reference)).1.slots.get token' = some state' := hget'
    rcases get_of_step hstep with ⟨old, hold, hcarries⟩ | ⟨-, hcreates, -⟩
    · cases hget.symm.trans hold
      exact hcarries.slot
    · exact absurd (hget.symm.trans hcreates.unknown) (Option.some_ne_none state)

theorem discard.spec (token : DescramblerKeyToken) (slot : DescramblerKeySlotId) :
    (∀ token', (t.discard_if_unreferenced token slot).refcount token' = t.refcount token') ∧
    t.KeepsSlots (t.discard_if_unreferenced token slot) := by
  refine ⟨fun token' => ?_, keepsSlots_step (.discard_if_unreferenced token slot)
    nofun⟩
  rcases discard.cases t token slot with heq | ⟨state, hget, hzero, heq⟩ <;> rw [heq]
  rw [refcount_erase, refcount_given]
  rw [refcount_eq hget, hzero]

theorem acquire.spec (token : DescramblerKeyToken) :
    (∃ error, t.acquire token = (t, .error error)) ∨
    ∃ t' state', t.acquire token = (t', .ok state'.slot) ∧ t'.slots.get token = some state' ∧
      (∀ token', t'.refcount token' = t.refcount token' + if token' = token then 1 else 0) ∧
      t.KeepsSlots t' := by
  have hkeeps : t.KeepsSlots (t.acquire token).1 :=
    keepsSlots_step (.acquire token) nofun
  rcases acquire.cases t token with ⟨error, heq⟩ | ⟨state, hget, heq⟩
  · exact .inl ⟨error, heq⟩
  rw [heq] at hkeeps
  refine .inr ⟨_, { state with refcount := state.refcount + 1 }, heq,
    FinMap.get_insert_self _ _, fun token' => ?_, hkeeps⟩
  rw [refcount_insert]
  split
  · rename_i hsame
    rw [hsame, refcount_eq hget]
  · rfl

end

theorem release.spec (h : 0 < t.refcount token) :
    ∃ t', t.release token = (t', .ok ()) ∧
      (∀ token', t'.refcount token' + (if token' = token then 1 else 0) = t.refcount token') ∧
      t.KeepsSlots t' ∧ ∀ token', token' ≠ token → t'.slots.get token' = t.slots.get token' := by
  have hkeeps : t.KeepsSlots (t.release token).1 :=
    keepsSlots_step (.release token) nofun
  obtain ⟨held, hheld⟩ := get_of_refcount h
  rw [refcount_eq hheld] at h
  rcases release.cases t token with
    ⟨error, -, hzero⟩ | ⟨state, hget, ⟨hone, heq⟩ | ⟨n, hcount, -, heq⟩⟩
  · exact absurd (hzero held hheld) h.ne'
  · rw [heq] at hkeeps
    refine ⟨_, heq, fun token' => ?_, hkeeps, fun token' hne => ?_⟩
    · rw [refcount_erase]
      split_ifs with hsame
      · rw [hsame, refcount_eq hget, hone]
      · rfl
    · rw [FinMap.get_erase, if_neg hne]
  · rw [heq] at hkeeps
    refine ⟨_, heq, fun token' => ?_, hkeeps, fun token' hne => ?_⟩
    · rw [refcount_insert]
      split_ifs with hsame
      · rw [hsame, refcount_eq hget, hcount]
      · rfl
    · rw [FinMap.get_insert, if_neg hne]

end DescramblerKeyTable

/-! ## What a use case does to a session and the table -/

variable {session session' : DescramblerSession} {t t' : DescramblerKeyTable ρ}
  {token : DescramblerKeyToken}

def DescramblerSession.Holds (session : DescramblerSession) (token : DescramblerKeyToken) : Bool :=
  session.key_token = some token

/-- No release is postponed, and nothing went wrong. -/
structure DescramblerSession.Calm (session : DescramblerSession) : Prop where
  pending : session.pending_key_releases = []
  state : session.state = .Open ∨ session.state = .Closed

/-- The references to the token that the session holds. -/
def held (session : DescramblerSession) (token : DescramblerKeyToken) : Nat :=
  if session.Holds token then 1 else 0

/-- The counts change with what the session holds, and a key that it gets has the slot of its
token. -/
structure Moves (session session' : DescramblerSession) (t t' : DescramblerKeyTable ρ) : Prop where
  balance : ∀ token, t'.refcount token + held session token = t.refcount token + held session' token
  keeps : t.KeepsSlots t'
  next_slot : t'.next_slot = t.next_slot
  key : ∀ token, session'.key_token = some token →
    (session.key_token = some token ∧ session'.key_slot = session.key_slot) ∨
    ∃ state, t'.slots.get token = some state ∧ session'.key_slot = some state.slot
  calm : session'.Calm

theorem Moves.same_key (hcalm : session'.Calm) (htoken : session'.key_token = session.key_token)
    (hslot : ∀ token, session'.key_token = some token → session'.key_slot = session.key_slot) :
    Moves session session' t t := by
  refine ⟨fun token => ?_, .refl t, rfl, fun token h => .inl ⟨htoken ▸ h, hslot token h⟩, hcalm⟩
  rw [held, held, Holds, Holds, htoken]

/-- A session that a use case can be run on: nothing is postponed, and its key is counted. -/
structure Ready (session : DescramblerSession) (t : DescramblerKeyTable ρ) : Prop
    extends session.Calm where
  counted : ∀ token, session.key_token = some token → 0 < t.refcount token

theorem held_of_key (h : session.key_token = some token) (token' : DescramblerKeyToken) :
    held session token' = if token' = token then 1 else 0 := by
  simp [held, Holds, h, eq_comm]

theorem Moves.give_back (h : Ready session t) (hcalm : session'.Calm)
    (hnone : session'.key_token = none) (hkey : session.key_token = some token) :
    ∃ t', t.release token = (t', .ok ()) ∧ Moves session session' t t' := by
  obtain ⟨t', heq, hcount, hkeeps, -⟩ := release.spec (h.counted token hkey)
  have hnext := t.next_slot_release token
  rw [heq] at hnext
  refine ⟨t', heq, fun token' => ?_, hkeeps, hnext, fun token' h => ?_, hcalm⟩
  · have hnew : held session' token' = 0 := by simp [held, Holds, hnone]
    rw [held_of_key hkey, hnew, hcount, Nat.add_zero]
  · rw [hnone] at h
    cases h

theorem prepare_clear_key.cases (session : DescramblerSession) :
    (∃ failure, prepare_clear_key_use_case session = .error failure) ∨
    ∃ prepared, prepare_clear_key_use_case session = .ok prepared ∧
      prepared.old_token = session.key_token ∧
      commit_prepared_clear_key_use_case session prepared = .ok session.clear_key := by
  unfold prepare_clear_key_use_case plan_clear_key commit_prepared_clear_key_use_case
    validate_clear_key_plan ensure_open
  by_cases hopen : session.state ≠ .Open
  · rw [if_pos hopen]
    exact .inl ⟨_, rfl⟩
  rw [if_neg hopen]
  cases hkey : session.key_token <;> cases hslot : session.key_slot
  case none.none =>
    refine .inr ⟨.NoKey, ?_, rfl, ?_⟩ <;>
      simp [bind, Except.bind, pure, Except.pure, DescramblerClearKeyPlan.matches_session, hkey,
        hslot]
  case some.some token slot =>
    refine .inr ⟨.ClearExisting token slot, ?_, rfl, ?_⟩ <;>
      simp [bind, Except.bind, pure, Except.pure, DescramblerClearKeyPlan.matches_session, hkey,
        hslot]
  all_goals exact .inl ⟨_, rfl⟩

/-- The use case reports that a key could not be released. -/
def ReleaseFailed : DescramblerAnswer → Prop
  | .replaced (.ok (.ReplacedWithOldKeyReleaseFailure _)) | .replaced (.error (.Commit _ _))
  | .cleared (.ok (.ClearedWithOldKeyReleaseFailure _)) | .cleaned (.error (.ReleaseKey _)) => True
  | _ => False

theorem clear_key_use_case.spec (h : Ready session t) :
    let r := clear_key_use_case session t
    Moves session r.1 t r.2.1 ∧ ¬ ReleaseFailed (.cleared r.2.2) := by
  unfold clear_key_use_case
  rcases prepare_clear_key.cases session with
    ⟨failure, heq⟩ | ⟨prepared, heq, hold, hcommit⟩ <;> rw [heq] <;> dsimp only
  · exact ⟨.same_key h.toCalm rfl fun _ _ => rfl, id⟩
  rw [hcommit]
  rw [hold]
  have hcleared : session.clear_key.Calm := ⟨h.pending, h.state⟩
  cases hkey : session.key_token with
  | none => exact ⟨.same_key hcleared hkey.symm nofun, id⟩
  | some token =>
    obtain ⟨t', hrelease, hmoves⟩ := Moves.give_back h hcleared rfl hkey
    dsimp only [release_or_quarantine]
    rw [hrelease]
    exact ⟨hmoves, id⟩

theorem plan_replace_key.cases (session : DescramblerSession) (token : DescramblerKeyToken) :
    (∃ failure, plan_replace_key session token = .error failure) ∨
    plan_replace_key session token = .ok (.AlreadyCurrent token) ∨
    (plan_replace_key session token = .ok (.Replace session.key_token) ∧
      session.key_token ≠ some token ∧
      ∀ key_slot, commit_validated_replace_key session (.Replace session.key_token) token key_slot =
        .ok (session.set_key token key_slot)) := by
  unfold plan_replace_key commit_validated_replace_key ensure_open
  split
  · exact .inl ⟨_, rfl⟩
  split
  · exact .inr (.inl rfl)
  rename_i hcurrent
  refine .inr (.inr ⟨rfl, hcurrent, fun key_slot => ?_⟩)
  dsimp only
  rw [if_neg (not_not.mpr rfl)]
  rfl

theorem replace_key_use_case.spec (h : Ready session t) (token : DescramblerKeyToken) :
    let r := replace_key_use_case session t token
    Moves session r.1 t r.2.1 ∧ ¬ ReleaseFailed (.replaced r.2.2) := by
  have hsame : Moves session session t t := .same_key h.toCalm rfl fun _ _ => rfl
  unfold replace_key_use_case
  rcases plan_replace_key.cases session token with
    ⟨failure, heq⟩ | heq | ⟨heq, hother, hcommit⟩ <;> rw [heq]
  · exact ⟨hsame, id⟩
  · exact ⟨hsame, id⟩
  have hnext := t.next_slot_acquire token
  rcases acquire.spec t token with
    ⟨error, hacquire⟩ | ⟨t', state, hacquire, hstate, hcount, hkeeps⟩ <;>
    rw [hacquire] at hnext ⊢ <;> dsimp only
  · exact ⟨hsame, id⟩
  unfold replace_acquired
  rw [hcommit]
  have hset : (session.set_key token state.slot).Calm := ⟨h.pending, h.state⟩
  have hholds : (session.set_key token state.slot).key_token = some token := rfl
  cases hkey : session.key_token with
  | none =>
    refine ⟨⟨fun token' => ?_, hkeeps, hnext, fun token' h => ?_, hset⟩, id⟩
    · rw [held_of_key hholds, hcount]
      simp [held, Holds, hkey]
    · cases h
      exact .inr ⟨state, hstate, rfl⟩
  | some old =>
    have hne : token ≠ old := fun h => hother (hkey.trans (congrArg some h.symm))
    have hold : 0 < t'.refcount old :=
      (hcount old).ge.trans_lt' (Nat.lt_add_right _ (h.counted old hkey))
    obtain ⟨t'', hrelease, hcount', hkeeps', hothers⟩ := release.spec hold
    have hnext' := t'.next_slot_release old
    rw [hrelease] at hnext'
    dsimp only [release_or_quarantine]
    rw [hrelease]
    refine ⟨⟨fun token' => ?_, hkeeps.trans hkeeps', hnext'.trans hnext, fun token' h => ?_,
      hset⟩, id⟩
    · rw [held_of_key hholds, held_of_key hkey, hcount', hcount]
    · cases h
      exact .inr ⟨state, (hothers token hne).trans hstate, rfl⟩

theorem cleanup_all_use_case.spec (h : Ready session t) :
    ∃ session' t', cleanup_all_use_case session t = (session', t', .ok cleanup_report) ∧
      Moves session session' t t' ∧ session'.key_token = none := by
  have hclosed : ∀ s : DescramblerSession, s.close_all.Calm := fun s => ⟨rfl, .inr rfl⟩
  unfold cleanup_all_use_case release_current
  cases hkey : session.key_token with
  | none =>
    dsimp only
    rw [h.pending]
    exact ⟨_, t, rfl, .same_key (hclosed _) hkey.symm nofun, rfl⟩
  | some token =>
    have hpending : session.clear_key.pending_key_releases = [] := h.pending
    let closed := ({ session.clear_key with pending_key_releases := [], pid_claims := [] } :
      DescramblerSession).close_all
    obtain ⟨t', hrelease, hmoves⟩ :=
      Moves.give_back h (hclosed _) (rfl : closed.key_token = none) hkey
    refine ⟨closed, t', ?_, hmoves, rfl⟩
    dsimp only
    rw [hrelease]
    rw [hpending]
    rfl

/-! ## Runs -/

namespace Descramblers

variable {w w' : Descramblers ρ} {id : Int}

/-- The sessions that hold the token. -/
def holders (w : Descramblers ρ) (token : DescramblerKeyToken) : Nat :=
  w.descrambler_runtimes.values.countP (·.Holds token)

structure Exact (w : Descramblers ρ) : Prop where
  count : ∀ token, w.descrambler_key_table.refcount token = w.holders token
  slot : ∀ id session token, w.descrambler_runtimes.get id = some session →
    session.key_token = some token → ∃ state,
      w.descrambler_key_table.slots.get token = some state ∧ session.key_slot = some state.slot
  calm : ∀ id session, w.descrambler_runtimes.get id = some session → session.Calm

theorem holders_pos (hget : w.descrambler_runtimes.get id = some session)
    (hkey : session.key_token = some token) : 0 < w.holders token := by
  rw [holders, OrdMap.countP_erase _ hget, if_pos (by simpa [Holds] using hkey)]
  exact Nat.succ_pos _

theorem Exact.ready (h : w.Exact) (hget : w.descrambler_runtimes.get id = some session) :
    Ready session w.descrambler_key_table := by
  refine ⟨h.calm id session hget, fun token hkey => ?_⟩
  rw [h.count]
  exact holders_pos hget hkey

/-- A key that a session held before has its slot after a change of the table that keeps slots. -/
theorem Exact.slot_after (h : w.Exact)
    (hagree : w.descrambler_key_table.SlotsAgree t')
    (hget : w.descrambler_runtimes.get id = some session) (hkey : session.key_token = some token)
    (hpos : 0 < t'.refcount token) :
    ∃ state, t'.slots.get token = some state ∧ session.key_slot = some state.slot := by
  obtain ⟨state, hold, hslot⟩ := h.slot id session token hget hkey
  obtain ⟨state', hnew⟩ := get_of_refcount hpos
  exact ⟨state', hnew, by rw [hslot, hagree token state state' hold hnew]⟩

theorem Exact.with_table (h : w.Exact)
    (hcount : ∀ token, t'.refcount token = w.descrambler_key_table.refcount token)
    (hagree : w.descrambler_key_table.SlotsAgree t') :
    ({ w with descrambler_key_table := t' } : Descramblers ρ).Exact := by
  refine ⟨fun token => (hcount token).trans (h.count token), fun id session token hget hkey => ?_,
    h.calm⟩
  refine h.slot_after hagree hget hkey ?_
  rw [hcount]
  exact (h.ready hget).counted token hkey

theorem Exact.moved (h : w.Exact) (hget : w.descrambler_runtimes.get id = some session)
    (hmoves : Moves session session' w.descrambler_key_table t') :
    (⟨w.descrambler_runtimes.insert id session', t'⟩ : Descramblers ρ).Exact := by
  have hcount : ∀ token, t'.refcount token =
      (⟨w.descrambler_runtimes.insert id session', t'⟩ : Descramblers ρ).holders token := by
    intro token
    have hbalance := hmoves.balance token
    have hold := h.count token
    rw [holders, OrdMap.countP_erase _ hget] at hold
    rw [holders, OrdMap.countP_insert]
    unfold held at hbalance
    omega
  refine ⟨hcount, fun id' s token hget' hkey => ?_, fun id' s hget' => ?_⟩
  · have hpos : 0 < t'.refcount token := by
      rw [hcount]
      exact holders_pos hget' hkey
    rcases OrdMap.get_of_insert hget' with ⟨-, rfl⟩ | hget'
    · rcases hmoves.key token hkey with ⟨hkey', hslot⟩ | hnew
      · rw [hslot]
        exact h.slot_after hmoves.keeps.agree hget hkey' hpos
      · exact hnew
    · exact h.slot_after hmoves.keeps.agree hget' hkey hpos
  · rcases OrdMap.get_of_insert hget' with ⟨-, rfl⟩ | hget'
    · exact hmoves.calm
    · exact h.calm id' s hget'

/-- A step that goes well: the counts stay exact, slots are only given out, and no release
failed. -/
structure GoesWell (w : Descramblers ρ) (result : Descramblers ρ × DescramblerAnswer) : Prop where
  exact : result.1.Exact
  next_slot : w.descrambler_key_table.next_slot ≤ result.1.descrambler_key_table.next_slot
  released : ¬ ReleaseFailed result.2

theorem Exact.with_session (h : w.Exact) {missing : DescramblerAnswer}
    (hmissing : ¬ ReleaseFailed missing)
    {use_case : DescramblerSession → DescramblerKeyTable ρ →
      KeyResult ρ DescramblerAnswer}
    (hcase : ∀ session, Ready session w.descrambler_key_table →
      let r := use_case session w.descrambler_key_table
      Moves session r.1 w.descrambler_key_table r.2.1 ∧ ¬ ReleaseFailed r.2.2) :
    w.GoesWell (w.with_session id missing use_case) := by
  unfold Descramblers.with_session
  cases hget : w.descrambler_runtimes.get id with
  | none => exact ⟨h, le_rfl, hmissing⟩
  | some session =>
    obtain ⟨hmoves, hanswer⟩ := hcase session (h.ready hget)
    exact ⟨h.moved hget hmoves, hmoves.next_slot.ge, hanswer⟩

/-- The use case leaves the key of a session. -/
def LeavesKey (use_case : DescramblerSession → SessionResult) : Prop :=
  ∀ session session', session.Calm → use_case session = .ok session' →
    session'.Calm ∧ session'.key_token = session.key_token ∧ session'.key_slot = session.key_slot

theorem Exact.with_session_only (h : w.Exact) {use_case : DescramblerSession → SessionResult}
    (hleaves : LeavesKey use_case) : w.GoesWell (w.with_session_only id use_case) := by
  refine h.with_session (by exact not_false) fun session hready => ?_
  cases hcase : use_case session with
  | error failure =>
    exact ⟨.same_key hready.toCalm rfl fun _ _ => rfl, not_false⟩
  | ok session' =>
    obtain ⟨hcalm', htoken, hslot⟩ := hleaves session session' hready.toCalm hcase
    exact ⟨.same_key hcalm' htoken fun _ _ => hslot, not_false⟩

theorem of_ensure_open {rest : Unit → SessionResult}
    (h : (session.ensure_open >>= rest) = .ok session') : rest () = .ok session' := by
  unfold ensure_open at h
  split at h
  · cases h
  · exact h

theorem leavesKey_begin : LeavesKey begin_demux_source_call_use_case := by
  intro session session' hcalm h
  have hrest := of_ensure_open h
  split at hrest
  · cases hrest
  · cases hrest
    exact ⟨⟨hcalm.pending, hcalm.state⟩, rfl, rfl⟩

theorem leavesKey_bind (demux_id : Int) (generation : Nat) :
    LeavesKey (commit_demux_binding_use_case · demux_id generation) := by
  intro session session' hcalm h
  have hrest := of_ensure_open h
  split at hrest
  · cases hrest
  · cases hrest
    exact ⟨⟨hcalm.pending, hcalm.state⟩, rfl, rfl⟩

theorem leavesKey_failure (failure : DescramblerSourceCallFailure) :
    LeavesKey (record_descrambler_demux_source_call_failure_use_case · failure) := by
  intro session session' hcalm h
  dsimp only [record_descrambler_demux_source_call_failure_use_case] at h
  unfold record_source_call_failure at h
  cases hstate : session.source_call_state with
  | CallConsumedUnbound _ =>
    rw [hstate] at h
    cases h
    exact ⟨⟨hcalm.pending, hcalm.state⟩, rfl, rfl⟩
  | NeverCalledUnbound | Bound => rw [hstate] at h; cases h

variable (claim : DescramblerPidClaim) (calls : List (DescramblerCall ρ))

theorem leavesKey_add : LeavesKey (add_pid_claim_use_case · claim) := by
  intro session session' hcalm h
  have hrest := of_ensure_open h
  split at hrest
  · cases hrest
  cases hrest
  unfold DescramblerSession.add_pid_claim
  split
  · exact ⟨hcalm, rfl, rfl⟩
  · exact ⟨⟨hcalm.pending, hcalm.state⟩, rfl, rfl⟩

theorem leavesKey_remove : LeavesKey (remove_pid_claim_use_case · claim) := by
  intro session session' hcalm h
  cases of_ensure_open h
  exact ⟨⟨hcalm.pending, hcalm.state⟩, rfl, rfl⟩

theorem Exact.registered (h : w.Exact) : (w.register_descrambler id).Exact := by
  unfold register_descrambler
  split
  · exact h
  rename_i hnone
  have herase : w.descrambler_runtimes.erase id = w.descrambler_runtimes :=
    OrdMap.erase_absent (Option.not_isSome_iff_eq_none.mp hnone)
  refine ⟨fun token => ?_, fun id' s token hget hkey => ?_, fun id' s hget => ?_⟩
  · rw [holders, OrdMap.countP_insert, herase]
    exact h.count token
  · rcases OrdMap.get_of_insert hget with ⟨-, rfl⟩ | hold
    · cases hkey
    · exact h.slot id' s token hold hkey
  · rcases OrdMap.get_of_insert hget with ⟨-, rfl⟩ | hold
    · exact ⟨rfl, .inl rfl⟩
    · exact h.calm id' s hold

theorem Exact.dropped (h : w.Exact) (hget : w.descrambler_runtimes.get id = some session)
    (hkey : session.key_token = none) :
    Exact { w with descrambler_runtimes := w.descrambler_runtimes.erase id } := by
  refine ⟨fun token => ?_,
    fun id' s token hget' => h.slot id' s token (OrdMap.get_of_erase hget').2,
    fun id' s hget' => h.calm id' s (OrdMap.get_of_erase hget').2⟩
  have hcount := h.count token
  rw [holders, OrdMap.countP_erase _ hget, if_neg (by simp [Holds, hkey])] at hcount
  exact hcount

theorem Exact.cleaned (h : w.Exact) (hget : w.descrambler_runtimes.get id = some session) :
    ∃ session' t', w.cleanup_descrambler_use_case id =
      (⟨w.descrambler_runtimes.insert id session', t'⟩, .cleaned (.ok cleanup_report)) ∧
      Moves session session' w.descrambler_key_table t' ∧ session'.key_token = none := by
  obtain ⟨session', t', heq, hmoves, hnone⟩ :=
    cleanup_all_use_case.spec (h.ready hget)
  refine ⟨session', t', ?_, hmoves, hnone⟩
  rw [cleanup_descrambler_use_case, Descramblers.with_session, hget]
  dsimp only
  rw [heq]

theorem Exact.unregistered (h : w.Exact) : w.GoesWell (w.unregister_runtime id) := by
  unfold unregister_runtime
  cases hget : w.descrambler_runtimes.get id with
  | none =>
    rw [cleanup_descrambler_use_case, Descramblers.with_session, hget]
    exact ⟨h, le_rfl, not_false⟩
  | some session =>
    obtain ⟨session', t', heq, hmoves, hnone⟩ := h.cleaned hget
    rw [heq]
    have hself : (w.descrambler_runtimes.insert id session').get id = some session' := by
      rw [OrdMap.get_insert, if_pos rfl]
    exact ⟨(h.moved hget hmoves).dropped hself hnone, hmoves.next_slot.ge, not_false⟩

theorem Exact.step (h : w.Exact) (call : DescramblerCall ρ) : w.GoesWell (w.step call) := by
  cases call with
  | publish token reference =>
    obtain ⟨hcount, hsame⟩ :=
      publish.spec w.descrambler_key_table token reference
    exact ⟨h.with_table hcount hsame, next_slot_publish_le _ _ _, not_false⟩
  | discard token slot =>
    obtain ⟨hcount, hkeeps⟩ := discard.spec w.descrambler_key_table token slot
    exact ⟨h.with_table hcount hkeeps.agree,
      (next_slot_discard _ _ _).ge, not_false⟩
  | register id =>
    refine ⟨h.registered, ?_, not_false⟩
    dsimp only [Descramblers.step, register_descrambler]
    split <;> exact le_rfl
  | begin_demux_source_call id => exact h.with_session_only leavesKey_begin
  | commit_demux_binding id demux_id generation =>
    exact h.with_session_only (leavesKey_bind demux_id generation)
  | record_source_call_failure id failure =>
    exact h.with_session_only (leavesKey_failure failure)
  | add_pid_claim id claim => exact h.with_session_only (leavesKey_add claim)
  | remove_pid_claim id claim => exact h.with_session_only (leavesKey_remove claim)
  | replace_key id token =>
    rw [Descramblers.step]
    exact h.with_session (by exact not_false) fun _ hready => replace_key_use_case.spec hready token
  | clear_key id =>
    rw [Descramblers.step]
    exact h.with_session (by exact not_false) fun _ hready => clear_key_use_case.spec hready
  | cleanup id =>
    rw [Descramblers.step]
    refine h.with_session (by exact not_false) fun session hready => ?_
    obtain ⟨session', t', heq, hmoves, -⟩ := cleanup_all_use_case.spec hready
    rw [heq]
    exact ⟨hmoves, not_false⟩
  | unregister id => exact h.unregistered

theorem exact_empty : ({} : Descramblers ρ).Exact :=
  ⟨fun _ => rfl, fun _ _ _ hget _ => (nomatch hget), fun _ _ hget => nomatch hget⟩

def state_after : Descramblers ρ :=
  (run Descramblers.step {} calls).1

theorem exact_after : (state_after calls).Exact :=
  run_keeps (P := Exact) (fun _ call h => (Exact.step h call).exact) {} calls exact_empty

theorem state_after_append (before after : List (DescramblerCall ρ)) :
    state_after (before ++ after) = (run Descramblers.step (state_after before) after).1 := by
  rw [state_after, run_append]
  rfl

theorem next_slot_le_after (before after : List (DescramblerCall ρ)) :
    (state_after before).descrambler_key_table.next_slot ≤
      (state_after (before ++ after)).descrambler_key_table.next_slot := by
  rw [state_after_append]
  refine (run_keeps (P := fun w' => w'.Exact ∧
    (state_after before).descrambler_key_table.next_slot ≤ w'.descrambler_key_table.next_slot)
    (fun w' call h => ?_) (state_after before) after ⟨exact_after before, le_rfl⟩).2
  exact ⟨(h.1.step call).exact, h.2.trans (h.1.step call).next_slot⟩

/-- After any calls, the count of each token is the number of sessions that hold it, and a token
that is held is in the table with the slot of its session. No release fails or is postponed, no
session is quarantined, and no slot id is given out twice. -/
theorem key_counts_are_exact (calls : List (DescramblerCall ρ)) :
    (∀ token, (state_after calls).descrambler_key_table.refcount token =
      (state_after calls).holders token) ∧
    (∀ id session token, (state_after calls).descrambler_runtimes.get id = some session →
      session.key_token = some token →
      (∃ state, (state_after calls).descrambler_key_table.slots.get token = some state ∧
        session.key_slot = some state.slot) ∧
      ((state_after calls).descrambler_key_table.release token).2 = .ok ()) ∧
    (∀ id session, (state_after calls).descrambler_runtimes.get id = some session →
      session.pending_key_releases = [] ∧ session.state ≠ .Quarantined ∧
      session.state ≠ .CleanupPending) ∧
    (∀ call, ¬ ReleaseFailed ((state_after calls).step call).2) ∧
    ∀ later token token' reference reference' slot,
      (state_after calls).descrambler_key_table.Creates token reference slot →
      ¬ (state_after (calls ++ .publish token reference :: later)).descrambler_key_table.Creates
        token' reference' slot := by
  have h := exact_after calls
  refine ⟨h.count, fun id session token hget hkey => ⟨h.slot id session token hget hkey, ?_⟩,
    fun id session hget => ⟨(h.calm id session hget).pending, ?_⟩,
    fun call => (h.step call).released,
    fun later token token' reference reference' slot hcreates hagain => ?_⟩
  · obtain ⟨t', heq, -⟩ := release.spec ((h.ready hget).counted token hkey)
    rw [heq]
  · rcases (h.calm id session hget).state with hstate | hstate <;> rw [hstate] <;>
      exact ⟨by decide, by decide⟩
  · obtain ⟨hslot, hnext⟩ := hcreates.slot_eq
    have hlater := next_slot_le_after (calls ++ [.publish token reference]) later
    have hone : (state_after (calls ++ [.publish token reference])).descrambler_key_table =
        ((state_after calls).descrambler_key_table.publish token reference).1 := by
      rw [state_after_append]
      rfl
    rw [List.append_assoc, List.singleton_append, ← hagain.slot_eq.1, hslot, hone, hnext] at hlater
    exact absurd hlater (Nat.not_succ_le_self _)

def keyToken (b : UInt8) : DescramblerKeyToken := ⟨[b], nofun, by exact Nat.one_le_ofNat⟩

/-- One session takes a key. -/
def oneHolder : List (DescramblerCall Unit) :=
  [.publish (keyToken 1) (), .register 5, .replace_key 5 (keyToken 1)]

/-- The key has the one reference of the session, which can be given back. The next key gets the
slot 2, and a third one another slot. -/
theorem the_only_holder_counts :
    (state_after oneHolder).descrambler_key_table.refcount (keyToken 1) = 1 ∧
    ((state_after oneHolder).descrambler_key_table.release (keyToken 1)).2 = .ok () ∧
    ¬ (state_after (oneHolder ++ [.publish (keyToken 2) ()])).descrambler_key_table.Creates
      (keyToken 3) () 2 := by
  obtain ⟨hcount, hheld, -, -, hslots⟩ := key_counts_are_exact oneHolder
  exact ⟨(hcount _).trans rfl, (hheld 5 _ _ rfl rfl).2, hslots [] _ _ () () 2 ⟨rfl, rfl⟩⟩

end Descramblers

end tuner_hal2_service_runtime
