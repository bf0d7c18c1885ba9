-- The LNB side of the runtime registry: which LNBs there are and which physical
-- rail each is on, which frontend is assigned to which, and the leases that keep a
-- rail in use. A rail is shared by all the LNBs under its key.
import TvStack.HalCommon
import TvStack.LnbRuntime
import TvStack.Maps
import TvStack.OrderedMaps

open Machines Words

namespace tuner_hal2_device

inductive FrontendRuntimeState
  | Idle
  | Tuning (generation : Nat)
  | Scanning (generation : Nat)
  | Closing
  | Failed
  deriving DecidableEq

end tuner_hal2_device

namespace tuner_hal2_service_runtime

open tuner_hal2_common tuner_hal2_device tuner_hal2_lnb

inductive LnbRegistryProfile
  | Px4Device15VOnly
  | EarthPt1FixedLnb
  | NoPower
  deriving DecidableEq

inductive SatellitePowerTopology
  | InternalFixed15V
  | ExternalOrShared
  | UnknownOrDisabled
  deriving DecidableEq

structure FrontendRegistryEntry where
  id : Int
  satellite_power_topology : SatellitePowerTopology

structure LnbRegistryEntry where
  id : Int
  name : Option String
  owner_frontend_id : Int
  profile : LnbRegistryProfile

structure LnbAssignmentLease where
  lnb_id : Int
  token : Nat
  deriving DecidableEq

structure PreparedLnbAssignmentLease where
  frontend_id : Int
  lnb_id : Int
  token : Nat
  expected_relation : Option Int
  expected_lease : Option LnbAssignmentLease
  deriving DecidableEq

structure PreparedLnbAssignmentCommitError where
  error : HalError
  prepared : PreparedLnbAssignmentLease
  deriving DecidableEq

structure LnbAssignmentCleanupRecord where
  frontend_id : Int
  lnb_id : Int
  token : Nat
  deriving DecidableEq

inductive RegistryCommitError
  | DuplicateFrontendId (id : Int)
  | DuplicateLnbId (id : Int)
  deriving DecidableEq

structure LnbRegistry where
  entries : OrdMap Int LnbRegistryEntry := {}
  runtimes : OrdMap Int LnbRuntime := {}
  physical_keys : OrdMap Int String := {}
  assignment_leases : OrdMap Int LnbAssignmentLease := {}
  prepared_assignment_leases : OrdMap Nat (Int × Int) := {}
  pending_assignment_cleanup : OrdMap Nat (Int × Int) := {}
  fixed_power_leases : OrdMap Int Int := {}
  rail_reference_counts : FinMap String Nat := {}
  next_assignment_lease_token : Nat := 0

structure RuntimeRegistry where
  frontends : OrdMap Int FrontendRegistryEntry := {}
  frontend_runtimes : OrdMap Int FrontendRuntimeState := {}
  lnb_registry : LnbRegistry := {}
  frontend_lnb_bindings : OrdMap Int Int := {}

/-- `HalError::internal` of an invariant that does not hold -/
def violation (detail : String) : HalError := .Internal .InvariantViolation detail

/-! ## The LNB registry -/

namespace LnbRegistry

variable (r : LnbRegistry) (id : Int)

def clear_assignment_state : LnbRegistry :=
  { r with
    assignment_leases := {}
    prepared_assignment_leases := {}
    pending_assignment_cleanup := {}
    fixed_power_leases := {}
    next_assignment_lease_token := 0
    rail_reference_counts := r.rail_reference_counts.mapValues fun _ => 0 }

def clear : LnbRegistry :=
  let r := { r with entries := {}, runtimes := {}, physical_keys := {} }
  { r.clear_assignment_state with rail_reference_counts := {} }

def invalid_state : LnbFailureRecord :=
  { lnb_id := id, kind := .InvalidState, step := .ValidateState }

def missing_runtime_failure : LnbFailureRecord := invalid_state id

/-- A call on the runtime of an LNB. -/
def on_runtime {α : Type} (r : LnbRegistry) (id : Int)
    (step : LnbRuntime → LnbRuntime × LnbResult α) :
    LnbRegistry × LnbResult α :=
  match r.runtimes.get id with
  | none => (r, .error (missing_runtime_failure id))
  | some runtime =>
    ({ r with runtimes := r.runtimes.insert id (step runtime).1 }, (step runtime).2)

def prepare_state_apply (target : LnbElectricalState) :
    LnbRegistry × LnbResult PreparedLnbStateApply :=
  if target.voltage ≠ .Voltage15V ∧ r.fixed_power_leases.values.any (· = id) then
    (r, .error (invalid_state id))
  else r.on_runtime id (prepare_lnb_state_apply · target)

def finish_state_apply (prepared : PreparedLnbStateApply) (outcome : LnbBackendApplyOutcome) :
    LnbRegistry × LnbResult LnbElectricalState :=
  r.on_runtime id (finish_lnb_state_apply · prepared outcome)

def prepare_close : LnbRegistry × LnbResult PreparedLnbClose :=
  if r.fixed_power_leases.values.any (· = id) then (r, .error (invalid_state id))
  else r.on_runtime id prepare_lnb_close

def finish_close (prepared : PreparedLnbClose) (outcome : LnbBackendApplyOutcome) :
    LnbRegistry × LnbResult Unit :=
  r.on_runtime id (finish_lnb_close · prepared outcome)

def reopen : LnbRegistry × LnbResult Unit :=
  r.on_runtime id LnbRuntime.reopen_after_public_open

def set_callback_registered (r : LnbRegistry) (id : Int) (registered : Bool) :
    LnbRegistry × LnbResult Unit :=
  r.on_runtime id fun runtime =>
    if runtime.state ≠ .Open then (runtime, .error (invalid_state id))
    else (runtime.set_callback_registered registered, .ok ())

def record_drop_leak : LnbRegistry × LnbResult Unit :=
  r.on_runtime id fun runtime => (runtime.record_unclosed_drop.1, .ok ())

def finish_diseqc (expected_generation : Nat) (outcome : LnbBackendApplyOutcome) :
    LnbRegistry × LnbResult Unit :=
  r.on_runtime id fun runtime =>
    if runtime.generation ≠ expected_generation ∨ runtime.state ≠ .Open then
      (runtime, .error (invalid_state id))
    else
      match outcome with
      | .Applied => (runtime, .ok ())
      | .Rejected kind => (runtime, .error { lnb_id := id, kind, step := .SendDiseqc })
      | .Indeterminate kind =>
        let (runtime, record) := runtime.quarantine_indeterminate_backend kind .SendDiseqc
        (runtime, .error record)

def physical_key_for_entry (entry : LnbRegistryEntry) : String :=
  entry.name.getD ("lnb-endpoint-" ++ toString entry.id)

/-- The counter of an LNB's rail, with the texts of its two errors. -/
def rail_counter (missing_key missing_count : String) : HalResult (String × Nat) :=
  match r.physical_keys.get id with
  | none => .error (violation missing_key)
  | some key =>
    match r.rail_reference_counts.get key with
    | none => .error (violation missing_count)
    | some count => .ok (key, count)

def retain_rail_reference : HalResult LnbRegistry :=
  match r.rail_counter id "LNB physical rail key is missing while retaining a lease"
      "LNB physical rail reference count is missing" with
  | .error error => .error error
  | .ok (key, count) =>
    match checked_add USIZE_MAX count 1 with
    | none => .error (violation "LNB physical rail reference count overflow")
    | some count => .ok { r with rail_reference_counts := r.rail_reference_counts.insert key count }

def release_rail_reference : HalResult LnbRegistry :=
  match r.rail_counter id "LNB physical rail key is missing while releasing a lease"
      "LNB physical rail reference count is missing" with
  | .error error => .error error
  | .ok (key, count) =>
    match checked_sub count 1 with
    | none => .error (violation "LNB physical rail reference count underflow")
    | some count => .ok { r with rail_reference_counts := r.rail_reference_counts.insert key count }

def retain_fixed_power_lease (frontend_id lnb_id : Int) : LnbRegistry × HalResult Bool :=
  match r.fixed_power_leases.get frontend_id with
  | some current =>
    if current = lnb_id then (r, .ok false)
    else (r, .error (violation "frontend fixed-power lease points at another LNB rail"))
  | none =>
    match r.retain_rail_reference lnb_id with
    | .error error => (r, .error error)
    | .ok r =>
      ({ r with fixed_power_leases := r.fixed_power_leases.insert frontend_id lnb_id }, .ok true)

def release_fixed_power_lease (frontend_id : Int) :
    LnbRegistry × HalResult (Option (Int × Nat)) :=
  match r.fixed_power_leases.get frontend_id with
  | none => (r, .ok none)
  | some lnb_id =>
    match r.rail_counter lnb_id "fixed-power lease lost its physical LNB rail key"
        "fixed-power lease lost its rail reference count" with
    | .error error => (r, .error error)
    | .ok (key, count) =>
      match checked_sub count 1 with
      | none => (r, .error (violation "fixed-power rail reference count underflow"))
      | some remaining =>
        ({ r with
            fixed_power_leases := r.fixed_power_leases.erase frontend_id
            rail_reference_counts := r.rail_reference_counts.insert key remaining },
          .ok (some (lnb_id, remaining)))

end LnbRegistry

/-! ## The runtime registry -/

namespace RuntimeRegistry

variable (s : RuntimeRegistry) (id : Int) (frontend_id : Int)

def register_frontend (entry : FrontendRegistryEntry) :
    RuntimeRegistry × Except RegistryCommitError Unit :=
  if (s.frontends.get entry.id).isSome then (s, .error (.DuplicateFrontendId entry.id))
  else
    ({ s with
        frontend_runtimes := s.frontend_runtimes.insert entry.id .Idle
        frontends := s.frontends.insert entry.id entry },
      .ok ())

def clear_frontends : RuntimeRegistry :=
  { s with
    frontends := {}
    frontend_runtimes := {}
    frontend_lnb_bindings := {}
    lnb_registry := s.lnb_registry.clear_assignment_state }

def clear_lnbs : RuntimeRegistry :=
  { s with lnb_registry := s.lnb_registry.clear, frontend_lnb_bindings := {} }

/-- A call on the LNB registry. -/
def on_lnbs {α : Type} (s : RuntimeRegistry) (call : LnbRegistry × α) : RuntimeRegistry × α :=
  ({ s with lnb_registry := call.1 }, call.2)

def prepare_lnb_state_apply (target : LnbElectricalState) :
    RuntimeRegistry × LnbResult PreparedLnbStateApply :=
  s.on_lnbs (s.lnb_registry.prepare_state_apply id target)

def finish_lnb_state_apply (prepared : PreparedLnbStateApply) (outcome : LnbBackendApplyOutcome) :
    RuntimeRegistry × LnbResult LnbElectricalState :=
  s.on_lnbs (s.lnb_registry.finish_state_apply id prepared outcome)

def prepare_lnb_close : RuntimeRegistry × LnbResult PreparedLnbClose :=
  s.on_lnbs (s.lnb_registry.prepare_close id)

def finish_lnb_close (prepared : PreparedLnbClose) (outcome : LnbBackendApplyOutcome) :
    RuntimeRegistry × LnbResult Unit :=
  s.on_lnbs (s.lnb_registry.finish_close id prepared outcome)

def reopen_lnb : RuntimeRegistry × LnbResult Unit :=
  s.on_lnbs (s.lnb_registry.reopen id)

def set_lnb_callback_registered (registered : Bool) : RuntimeRegistry × LnbResult Unit :=
  s.on_lnbs (s.lnb_registry.set_callback_registered id registered)

def record_lnb_drop_leak : RuntimeRegistry × LnbResult Unit :=
  s.on_lnbs (s.lnb_registry.record_drop_leak id)

def finish_lnb_diseqc (expected_generation : Nat) (outcome : LnbBackendApplyOutcome) :
    RuntimeRegistry × LnbResult Unit :=
  s.on_lnbs (s.lnb_registry.finish_diseqc id expected_generation outcome)

def retain_frontend_fixed_power_lease (frontend_id lnb_id : Int) :
    RuntimeRegistry × HalResult Bool :=
  match s.frontends.get frontend_id with
  | none =>
    (s, .error (.InvalidArgument .NumericRange
      "frontend is missing while retaining fixed LNB power"))
  | some frontend =>
    if frontend.satellite_power_topology ≠ .InternalFixed15V then
      (s, .error (.InvalidState .InvalidLifecycle
        "frontend does not own an internal fixed-15V rail"))
    else
      match s.lnb_registry.entries.get lnb_id with
      | none =>
        (s, .error (.InvalidArgument .NumericRange
          "LNB is missing while retaining fixed frontend power"))
      | some lnb =>
        if lnb.owner_frontend_id ≠ frontend_id then
          (s, .error (.InvalidArgument .NumericRange
            "LNB does not belong to the fixed-power frontend"))
        else s.on_lnbs (s.lnb_registry.retain_fixed_power_lease frontend_id lnb_id)

def release_frontend_fixed_power_lease : RuntimeRegistry × HalResult (Option (Int × Nat)) :=
  s.on_lnbs (s.lnb_registry.release_fixed_power_lease frontend_id)

def frontend_fixed_power_lnb : Option Int :=
  s.lnb_registry.fixed_power_leases.get frontend_id

def validate_lnb_assignment_target (frontend_id lnb_id : Int) : HalResult Unit :=
  if ¬ (s.frontends.get frontend_id).isSome then
    .error (.InvalidArgument .NumericRange "frontend id is missing for LNB assignment")
  else
    match s.lnb_registry.entries.get lnb_id with
    | none => .error (.InvalidArgument .NumericRange "LNB id is missing for frontend assignment")
    | some entry =>
      if entry.owner_frontend_id ≠ frontend_id then
        .error (.InvalidArgument .NumericRange "LNB does not belong to the assignment frontend")
      else .ok ()

def prepare_lnb_assignment_lease (frontend_id lnb_id : Int) :
    RuntimeRegistry × HalResult (Option PreparedLnbAssignmentLease) :=
  match s.validate_lnb_assignment_target frontend_id lnb_id with
  | .error error => (s, .error error)
  | .ok () =>
    let current_relation := s.frontend_lnb_bindings.get frontend_id
    let current_lease := s.lnb_registry.assignment_leases.get frontend_id
    if current_relation ≠ current_lease.map (·.lnb_id) then
      (s, .error (violation "frontend/LNB relation and assignment lease are inconsistent"))
    else if current_relation = some lnb_id then (s, .ok none)
    else if s.lnb_registry.prepared_assignment_leases.values.any (·.1 = frontend_id) then
      (s, .error (violation "frontend already has a prepared LNB assignment lease"))
    else
      match (checked_add U64_MAX s.lnb_registry.next_assignment_lease_token 1).filter
          (· ≠ 0) with
      | none => (s, .error (violation "LNB assignment lease token exhausted"))
      | some token =>
        let prepared := s.lnb_registry.prepared_assignment_leases
        ({ s with
            lnb_registry :=
              { s.lnb_registry with
                next_assignment_lease_token := token
                prepared_assignment_leases := prepared.insert token (frontend_id, lnb_id) } },
          .ok (some { frontend_id, lnb_id, token
                      expected_relation := current_relation, expected_lease := current_lease }))

def abort_prepared_lnb_assignment_lease (prepared : PreparedLnbAssignmentLease) :
    RuntimeRegistry × Bool :=
  let outstanding := s.lnb_registry.prepared_assignment_leases
  if outstanding.get prepared.token = some (prepared.frontend_id, prepared.lnb_id) then
    ({ s with
        lnb_registry :=
          { s.lnb_registry with
            prepared_assignment_leases := outstanding.erase prepared.token } },
      true)
  else (s, false)

/-- The lease that a commit replaces waits for its cleanup. -/
def cleanup_of (lease : LnbAssignmentLease) : LnbAssignmentCleanupRecord :=
  { frontend_id, lnb_id := lease.lnb_id, token := lease.token }

def commit_prepared_lnb_assignment (prepared : PreparedLnbAssignmentLease) :
    RuntimeRegistry ×
      Except PreparedLnbAssignmentCommitError (Option LnbAssignmentCleanupRecord) :=
  let outstanding := s.lnb_registry.prepared_assignment_leases
  if outstanding.get prepared.token ≠ some (prepared.frontend_id, prepared.lnb_id) ∨
      s.frontend_lnb_bindings.get prepared.frontend_id ≠ prepared.expected_relation ∨
      s.lnb_registry.assignment_leases.get prepared.frontend_id ≠ prepared.expected_lease ∨
      ¬ (s.lnb_registry.runtimes.get prepared.lnb_id).isSome then
    (s, .error
      { error := violation "prepared frontend/LNB assignment no longer matches its commit snapshot"
        prepared })
  else
    match s.lnb_registry.retain_rail_reference prepared.lnb_id with
    | .error error => (s, .error { error, prepared })
    | .ok lnb_registry =>
      let old_lease := lnb_registry.assignment_leases.get prepared.frontend_id
      let pending := lnb_registry.pending_assignment_cleanup
      ({ s with
          frontend_lnb_bindings :=
            s.frontend_lnb_bindings.insert prepared.frontend_id prepared.lnb_id
          lnb_registry :=
            { lnb_registry with
              prepared_assignment_leases :=
                lnb_registry.prepared_assignment_leases.erase prepared.token
              assignment_leases := lnb_registry.assignment_leases.insert prepared.frontend_id
                { lnb_id := prepared.lnb_id, token := prepared.token }
              pending_assignment_cleanup :=
                match old_lease with
                | none => pending
                | some lease => pending.insert lease.token (prepared.frontend_id, lease.lnb_id) } },
        .ok (old_lease.map (cleanup_of prepared.frontend_id)))

def complete_lnb_assignment_cleanup (cleanup : LnbAssignmentCleanupRecord) :
    RuntimeRegistry × HalResult Unit :=
  let pending := s.lnb_registry.pending_assignment_cleanup
  if pending.get cleanup.token ≠ some (cleanup.frontend_id, cleanup.lnb_id) then
    (s, .error (violation "old frontend/LNB assignment cleanup record is missing"))
  else
    match s.lnb_registry.release_rail_reference cleanup.lnb_id with
    | .error error => (s, .error error)
    | .ok lnb_registry =>
      ({ s with
          lnb_registry :=
            { lnb_registry with
              pending_assignment_cleanup :=
                lnb_registry.pending_assignment_cleanup.erase cleanup.token } },
        .ok ())

/-- The rail of a lease is let go, if there is a lease. -/
def release_lease (r : LnbRegistry) : Option LnbAssignmentLease → HalResult LnbRegistry
  | none => .ok r
  | some lease => r.release_rail_reference lease.lnb_id

def release_lnb_assignment : RuntimeRegistry × HalResult (Option Int) :=
  let relation := s.frontend_lnb_bindings.get frontend_id
  let lease := s.lnb_registry.assignment_leases.get frontend_id
  if relation ≠ lease.map (·.lnb_id) then
    (s, .error (violation "frontend/LNB release found inconsistent relation and lease state"))
  else
    match release_lease s.lnb_registry lease with
    | .error error => (s, .error error)
    | .ok lnb_registry =>
      ({ s with
          frontend_lnb_bindings := s.frontend_lnb_bindings.erase frontend_id
          lnb_registry :=
            { lnb_registry with
              assignment_leases := lnb_registry.assignment_leases.erase frontend_id } },
        .ok relation)

/-- There is an LNB on the rail already, and the first one is of another profile. -/
def incompatible (r : LnbRegistry) (entry : LnbRegistryEntry) (physical_key : String) : Bool :=
  match (r.physical_keys.items.find? (·.2 = physical_key)).map Prod.fst with
  | none => false
  | some existing_id =>
    match r.entries.get existing_id with
    | none => true
    | some existing => existing.profile ≠ entry.profile

def register_lnb (entry : LnbRegistryEntry) : RuntimeRegistry × Except RegistryCommitError Unit :=
  let r := s.lnb_registry
  let physical_key := LnbRegistry.physical_key_for_entry entry
  if (r.entries.get entry.id).isSome ∨ (r.runtimes.get entry.id).isSome then
    (s, .error (.DuplicateLnbId entry.id))
  else if incompatible r entry physical_key then (s, .error (.DuplicateLnbId entry.id))
  else
    ({ s with
        lnb_registry :=
          { r with
            rail_reference_counts := r.rail_reference_counts.or_insert physical_key 0
            physical_keys := r.physical_keys.insert entry.id physical_key
            runtimes := r.runtimes.insert entry.id (.new entry.id)
            entries := r.entries.insert entry.id entry } },
      .ok ())

end RuntimeRegistry

/-! ## The calls -/

/-- The calls on the LNB side of the registry, with any prepared value, any cleanup record and any
result of the backend. `FrontendMoves` is the rest of the service, which tunes, scans and closes. -/
inductive LnbRegistryCall
  | RegisterFrontend (entry : FrontendRegistryEntry)
  | FrontendMoves (frontend_id : Int) (state : FrontendRuntimeState)
  | ClearFrontends
  | RegisterLnb (entry : LnbRegistryEntry)
  | ClearLnbs
  | PrepareAssignment (frontend_id lnb_id : Int)
  | AbortAssignment (prepared : PreparedLnbAssignmentLease)
  | CommitAssignment (prepared : PreparedLnbAssignmentLease)
  | CompleteCleanup (cleanup : LnbAssignmentCleanupRecord)
  | ReleaseAssignment (frontend_id : Int)
  | RetainFixedPower (frontend_id lnb_id : Int)
  | ReleaseFixedPower (frontend_id : Int)
  | PrepareStateApply (id : Int) (target : LnbElectricalState)
  | FinishStateApply (id : Int) (prepared : PreparedLnbStateApply)
      (outcome : LnbBackendApplyOutcome)
  | PrepareClose (id : Int)
  | FinishClose (id : Int) (prepared : PreparedLnbClose) (outcome : LnbBackendApplyOutcome)
  | Reopen (id : Int)
  | SetCallbackRegistered (id : Int) (registered : Bool)
  | RecordDropLeak (id : Int)
  | FinishDiseqc (id : Int) (expected_generation : Nat) (outcome : LnbBackendApplyOutcome)

inductive LnbRegistryAnswer
  | Done
  | Registered (result : Except RegistryCommitError Unit)
  | AssignmentPrepared (result : HalResult (Option PreparedLnbAssignmentLease))
  | AssignmentAborted (found : Bool)
  | AssignmentCommitted
      (result : Except PreparedLnbAssignmentCommitError (Option LnbAssignmentCleanupRecord))
  | CleanupCompleted (result : HalResult Unit)
  | AssignmentReleased (result : HalResult (Option Int))
  | FixedPowerRetained (result : HalResult Bool)
  | FixedPowerReleased (result : HalResult (Option (Int × Nat)))
  | StateApplyPrepared (result : LnbResult PreparedLnbStateApply)
  | StateApplyFinished (result : LnbResult LnbElectricalState)
  | ClosePrepared (result : LnbResult PreparedLnbClose)
  | LnbAnswered (result : LnbResult Unit)

def RuntimeRegistry.call (s : RuntimeRegistry) :
    LnbRegistryCall → RuntimeRegistry × LnbRegistryAnswer
  | .RegisterFrontend entry => (s.register_frontend entry).map id .Registered
  | .FrontendMoves frontend_id state =>
    ({ s with frontend_runtimes := s.frontend_runtimes.insert frontend_id state }, .Done)
  | .ClearFrontends => (s.clear_frontends, .Done)
  | .RegisterLnb entry => (s.register_lnb entry).map id .Registered
  | .ClearLnbs => (s.clear_lnbs, .Done)
  | .PrepareAssignment frontend_id lnb_id =>
    (s.prepare_lnb_assignment_lease frontend_id lnb_id).map id .AssignmentPrepared
  | .AbortAssignment prepared =>
    (s.abort_prepared_lnb_assignment_lease prepared).map id .AssignmentAborted
  | .CommitAssignment prepared =>
    (s.commit_prepared_lnb_assignment prepared).map id .AssignmentCommitted
  | .CompleteCleanup cleanup =>
    (s.complete_lnb_assignment_cleanup cleanup).map id .CleanupCompleted
  | .ReleaseAssignment frontend_id =>
    (s.release_lnb_assignment frontend_id).map id .AssignmentReleased
  | .RetainFixedPower frontend_id lnb_id =>
    (s.retain_frontend_fixed_power_lease frontend_id lnb_id).map id .FixedPowerRetained
  | .ReleaseFixedPower frontend_id =>
    (s.release_frontend_fixed_power_lease frontend_id).map id .FixedPowerReleased
  | .PrepareStateApply lnb_id target =>
    (s.prepare_lnb_state_apply lnb_id target).map id .StateApplyPrepared
  | .FinishStateApply lnb_id prepared outcome =>
    (s.finish_lnb_state_apply lnb_id prepared outcome).map id .StateApplyFinished
  | .PrepareClose lnb_id => (s.prepare_lnb_close lnb_id).map id .ClosePrepared
  | .FinishClose lnb_id prepared outcome =>
    (s.finish_lnb_close lnb_id prepared outcome).map id .LnbAnswered
  | .Reopen lnb_id => (s.reopen_lnb lnb_id).map id .LnbAnswered
  | .SetCallbackRegistered lnb_id registered =>
    (s.set_lnb_callback_registered lnb_id registered).map id .LnbAnswered
  | .RecordDropLeak lnb_id => (s.record_lnb_drop_leak lnb_id).map id .LnbAnswered
  | .FinishDiseqc lnb_id generation outcome =>
    (s.finish_lnb_diseqc lnb_id generation outcome).map id .LnbAnswered

/-- A registry behind calls, from an empty one. -/
def registry_after (calls : List LnbRegistryCall) : RuntimeRegistry :=
  (run RuntimeRegistry.call {} calls).1

end tuner_hal2_service_runtime
