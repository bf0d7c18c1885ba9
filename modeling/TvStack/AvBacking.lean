-- The memory of AV payloads. A backing writes payloads into the slots of its
-- shared buffer, or into a buffer of one event. All backings of the service
-- claim the bytes from one budget and take the data ids from one allocator.
import TvStack.Machines
import TvStack.OrderedMaps
import TvStack.Pools
import TvStack.Words

open Machines Words

namespace tuner_hal2_demux.av

structure AvMediaEventMetadata where
  stream_id : UInt8 := 0
  is_pts_present : Bool := false
  pts_90khz : Option Nat := none
  is_dts_present : Bool := false
  dts_90khz : Option Nat := none
  is_pes_private_data : Bool := false
  deriving DecidableEq

/-- An `AvDataId` is an `i64` and an `AvSlotId` is a `u32`. `event_local_file` says whether the
event has a file of its own. -/
structure AvMediaEventDescriptor where
  data_id : Int
  (slot_id offset data_length : Nat)
  metadata : AvMediaEventMetadata
  event_local_file : Bool

inductive ClientHandleState
  | NotExported
  | ExportedActive
  | ClientReleased
  deriving DecidableEq

inductive AvPayloadDeliveryOutcome
  | Delivered (event : AvMediaEventDescriptor)
  | SharedHandleNotExported
  | ClientHandleReleased
  | PayloadEmpty
  | PayloadOversized
  | NoFreeSlot
  | DataIdExhausted

inductive AvSharedBackingError
  | InvariantViolation
  | AllocationFailed
  | DuplicateFailed
  | IdentityFailed
  | MappingFailed
  | UnmappingFailed
  deriving DecidableEq

/-- What an operation of the backing gives. -/
abbrev AvResult := Except AvSharedBackingError

structure AvFileIdentity where
  (device inode size_bytes : Nat)
  deriving DecidableEq

/-! ## The budget and the data ids -/

structure AvRuntimeBudget where
  limit_bytes : Nat
  used_bytes : Nat := 0
  corrupt : Bool := false
  limit_fits : limit_bytes ≤ USIZE_MAX

namespace AvRuntimeBudget

def new (limit_bytes : Nat) (limit_fits : limit_bytes ≤ USIZE_MAX) : AvRuntimeBudget :=
  { limit_bytes, limit_fits }

variable (b : AvRuntimeBudget) (bytes : Nat)

/-- The budget behind the claim, or `none` when the bytes do not fit. -/
def try_claim : AvResult (Option AvRuntimeBudget) :=
  if b.corrupt then .error .InvariantViolation
  else
    match checked_add USIZE_MAX b.used_bytes bytes with
    | none => .error .InvariantViolation
    | some next =>
      if b.limit_bytes < next then .ok none else .ok (some { b with used_bytes := next })

def release : AvRuntimeBudget × Bool :=
  match checked_sub b.used_bytes bytes with
  | some used_bytes => ({ b with used_bytes }, true)
  | none => ({ b with corrupt := true }, false)

def release_after_owner_drop : AvRuntimeBudget :=
  (b.release bytes).1

end AvRuntimeBudget

/-- A claim that is not committed yet. Its drop gives the bytes back. -/
structure PendingAvRuntimeClaim where
  budget : AvRuntimeBudget
  bytes : Nat

namespace PendingAvRuntimeClaim

def prepare (budget : AvRuntimeBudget) (bytes : Nat) : AvResult (Option PendingAvRuntimeClaim) :=
  match budget.try_claim bytes with
  | .error e => .error e
  | .ok none => .ok none
  | .ok (some budget) => .ok (some { budget, bytes })

variable (c : PendingAvRuntimeClaim)

def commit : AvRuntimeBudget := c.budget

def drop : AvRuntimeBudget :=
  c.budget.release_after_owner_drop c.bytes

end PendingAvRuntimeClaim

structure AvDataIdAllocator where
  issued_high_watermark : Int := 0

namespace AvDataIdAllocator

variable (a : AvDataIdAllocator)

def can_issue : Bool := decide (a.issued_high_watermark < I64_MAX)

def issue : Option (AvDataIdAllocator × Int) :=
  if a.issued_high_watermark + 1 ≤ I64_MAX ∧ 0 < a.issued_high_watermark + 1 then
    some (⟨a.issued_high_watermark + 1⟩, a.issued_high_watermark + 1)
  else none

end AvDataIdAllocator

/-- What the backings share. -/
structure AvRuntime where
  runtime_budget : AvRuntimeBudget
  data_id_allocator : AvDataIdAllocator := {}

/-! ## The release of a handle -/

inductive AvHandleReleaseDescriptor
  | Empty
  | File (identity : AvFileIdentity)
  deriving DecidableEq

inductive AvFilterReleaseState
  | OpenAv
  | OpenNonAv
  | Closed
  deriving DecidableEq

inductive AvDataIdState
  | ActiveShared
  | ActiveEventLocal
  | Unknown
  deriving DecidableEq

inductive AvEventLocalHandleLeaseState
  | Active
  | Finalized
  deriving DecidableEq

inductive AvHandleReleaseKind
  | Empty
  | Shared
  | EventLocal (data_id : Int) (lease_state : AvEventLocalHandleLeaseState)
  | UnknownFile
  deriving DecidableEq

structure AvHandleReleaseInput where
  handle_kind : AvHandleReleaseKind
  data_id : Int
  client_state : ClientHandleState
  filter_state : AvFilterReleaseState
  data_id_state : AvDataIdState

inductive AvHandleReleaseOutcome
  | EmptyHandleAccepted
  | ClientHandleReleased
  | ClientHandleReleaseAfterClose
  | ClientHandleAlreadyReleased
  | EventLocalHandleReleased (data_id : Int)
  | EventLocalHandleAlreadyReleased (data_id : Int)
  | SlotReleased (data_id : Int)
  | InvalidDataId
  | InvalidHandleForSlotRelease
  | UnknownDataId
  | RegistryFailure
  deriving DecidableEq

def AvHandleReleaseTxn.classify (input : AvHandleReleaseInput) : AvHandleReleaseOutcome :=
  if input.data_id < 0 then .InvalidDataId
  else
    match input.handle_kind with
    | .Empty =>
      if input.data_id = 0 then .EmptyHandleAccepted
      else
        match input.data_id_state with
        | .ActiveShared | .ActiveEventLocal => .SlotReleased input.data_id
        | .Unknown => .UnknownDataId
    | .Shared =>
      if 0 < input.data_id then .InvalidHandleForSlotRelease
      else
        match input.client_state with
        | .ExportedActive =>
          if input.filter_state = .Closed then .ClientHandleReleaseAfterClose
          else .ClientHandleReleased
        | .ClientReleased => .ClientHandleAlreadyReleased
        | .NotExported => .InvalidHandleForSlotRelease
    | .EventLocal data_id lease_state =>
      if input.data_id = 0 then
        match lease_state with
        | .Active => .EventLocalHandleReleased data_id
        | .Finalized => .EventLocalHandleAlreadyReleased data_id
      else if input.data_id = data_id ∧ input.data_id_state = .ActiveEventLocal then
        .SlotReleased input.data_id
      else .InvalidHandleForSlotRelease
    | .UnknownFile => .InvalidHandleForSlotRelease

/-! ## The backing -/

structure AvSlotState where
  slot_id : Nat
  active_data_id : Option Int
  data_length : Nat

structure EventLocalAllocation where
  file_identity : AvFileIdentity
  handle_lease_state : AvEventLocalHandleLeaseState
  length : Nat

/-- `file` says whether the shared buffer exists. -/
structure AvSharedBacking where
  state : ClientHandleState := .NotExported
  (slot_size max_event_bytes max_outstanding_events per_filter_live_bytes : Nat)
  slots : List AvSlotState
  ever_exported : Bool := false
  file : Bool := false
  shared_handle_identity : Option AvFileIdentity := none
  event_local_allocations : OrdMap Int EventLocalAllocation := {}
  event_local_bytes : Nat := 0

/-- What the system calls of one export or allocation answer. -/
structure AvSystemCalls where
  (allocates maps unmaps : Bool)
  identity : Option AvFileIdentity
  duplicates : Bool

/-- What a method leaves of its backing and of what the backings share, and its result. -/
structure AvCall (α : Type) where
  backing : AvSharedBacking
  shared : AvRuntime
  result : α

namespace AvSharedBacking

def with_profile_limits (slot_count slot_size max_event_bytes max_outstanding_events
    per_filter_live_bytes : Nat) : AvSharedBacking where
  slot_size
  max_event_bytes
  max_outstanding_events
  per_filter_live_bytes
  slots := (List.range slot_count).map fun idx => ⟨idx % 2 ^ 32, none, 0⟩

variable (b : AvSharedBacking) (shared : AvRuntime) (descriptor : AvHandleReleaseDescriptor)
  (data_id : Int) (calls : AvSystemCalls)

def mark_exported : AvSharedBacking :=
  { b with state := .ExportedActive, ever_exported := true }

def mark_client_released : AvSharedBacking :=
  { b with state := .ClientReleased }

/-- The slots that hold a payload. -/
def active_slots : List AvSlotState :=
  b.slots.filter (·.active_data_id.isSome)

def export_identity : AvSharedBacking × AvResult Unit :=
  match b.shared_handle_identity with
  | some _ => (b, .ok ())
  | none =>
    match calls.identity with
    | none => (b, .error .IdentityFailed)
    | some identity => ({ b with shared_handle_identity := some identity }, .ok ())

/-- A failed export keeps the buffer and the identity that it already has. -/
def export_handle : AvSharedBacking × AvResult Nat :=
  match checked_mul USIZE_MAX b.slot_size b.slots.length with
  | none => (b, .error .InvariantViolation)
  | some size_bytes =>
    if ¬ b.file ∧ ¬ calls.allocates then (b, .error .AllocationFailed)
    else
      match export_identity { b with file := true } calls with
      | (b, .error e) => (b, .error e)
      | (b, .ok ()) =>
        if ¬ calls.duplicates then (b, .error .DuplicateFailed)
        else (b.mark_exported, .ok size_bytes)

variable (data_length : Nat) (runtime_claim : PendingAvRuntimeClaim) (payload : List UInt8)
  (metadata : AvMediaEventMetadata) (filter_state : AvFilterReleaseState)

/-- The index of a free slot for the payload, or the reason why there is none. -/
def shared_slot_candidate : Except AvPayloadDeliveryOutcome Nat :=
  if ¬ b.ever_exported then .error .SharedHandleNotExported
  else if b.state = .ClientReleased then .error .ClientHandleReleased
  else if data_length = 0 then .error .PayloadEmpty
  else if b.max_event_bytes < data_length then .error .PayloadOversized
  else if b.slot_size < data_length then .error .PayloadOversized
  else if ¬ (checked_add USIZE_MAX b.active_slots.length b.event_local_allocations.size).any
      (decide <| · < b.max_outstanding_events) then .error .NoFreeSlot
  else if ¬ (checked_sum USIZE_MAX b.event_local_bytes
      (b.active_slots.map (·.data_length) ++ [data_length])).any
      (decide <| · ≤ b.per_filter_live_bytes) then .error .NoFreeSlot
  else
    match b.slots.findIdx? (·.active_data_id.isNone) with
    | none => .error .NoFreeSlot
    | some slot_index =>
      if ¬ shared.data_id_allocator.can_issue then .error .DataIdExhausted else .ok slot_index

/-- The end of a shared allocation: a data id for the slot, and the commit of the claim. -/
def fill_slot (slot_index data_length : Nat) (metadata : AvMediaEventMetadata) :
    AvCall AvPayloadDeliveryOutcome :=
  match shared.data_id_allocator.issue with
  | none => ⟨b, { shared with runtime_budget := runtime_claim.drop }, .DataIdExhausted⟩
  | some (data_id_allocator, data_id) =>
    let slot_id := (b.slots.map (·.slot_id)).getD slot_index 0
    ⟨{ b with slots := b.slots.modify slot_index fun slot =>
        { slot with active_data_id := some data_id, data_length } },
      { runtime_budget := runtime_claim.commit, data_id_allocator },
      .Delivered ⟨data_id, slot_id, slot_id * b.slot_size, data_length, metadata, false⟩⟩

def allocate_payload : AvCall AvPayloadDeliveryOutcome :=
  match b.shared_slot_candidate shared data_length with
  | .error outcome => ⟨b, shared, outcome⟩
  | .ok slot_index =>
    match PendingAvRuntimeClaim.prepare shared.runtime_budget data_length with
    | .ok (some runtime_claim) => b.fill_slot shared runtime_claim slot_index data_length {}
    | _ => ⟨b, shared, .NoFreeSlot⟩

/-- The copy of a payload into the shared buffer. -/
def write_slot : AvResult Unit :=
  if ¬ b.file then .error .InvariantViolation
  else
    match checked_mul USIZE_MAX b.slot_size b.slots.length with
    | none => .error .InvariantViolation
    | some _ =>
      if ¬ calls.maps then .error .MappingFailed
      else if ¬ calls.unmaps then .error .UnmappingFailed
      else .ok ()

/-- The copy of a payload into a buffer of its own. -/
def write_event_local : AvResult AvFileIdentity :=
  if ¬ calls.allocates then .error .AllocationFailed
  else if ¬ calls.maps then .error .MappingFailed
  else if ¬ calls.unmaps then .error .UnmappingFailed
  else
    match calls.identity with
    | none => .error .IdentityFailed
    | some identity => .ok identity

/-- The checks of an event-local allocation before its claim. -/
def event_local_candidate (length : Nat) : AvResult (Option AvPayloadDeliveryOutcome) :=
  if length = 0 then .ok (some .PayloadEmpty)
  else if b.max_event_bytes < length then .ok (some .PayloadOversized)
  else
    match checked_add USIZE_MAX b.active_slots.length b.event_local_allocations.size with
    | none => .error .InvariantViolation
    | some active_count =>
      if b.max_outstanding_events ≤ active_count then .ok (some .NoFreeSlot)
      else
        match checked_sum USIZE_MAX 0
            (b.active_slots.map (·.data_length) ++ [b.event_local_bytes, length]) with
        | none => .error .InvariantViolation
        | some next_live_bytes =>
          if b.per_filter_live_bytes < next_live_bytes then .ok (some .NoFreeSlot)
          else if ¬ shared.data_id_allocator.can_issue then .ok (some .DataIdExhausted)
          else .ok none

/-- The end of an event-local allocation: a data id, the entry of the payload, and the commit of
the claim. -/
def insert_event_local (file_identity : AvFileIdentity) (length : Nat)
    (metadata : AvMediaEventMetadata) :
    AvCall (AvResult AvPayloadDeliveryOutcome) :=
  match shared.data_id_allocator.issue with
  | none => ⟨b, { shared with runtime_budget := runtime_claim.drop }, .ok .DataIdExhausted⟩
  | some (data_id_allocator, data_id) =>
    match checked_add USIZE_MAX b.event_local_bytes length with
    | none =>
      ⟨b, { runtime_budget := runtime_claim.drop, data_id_allocator }, .error .InvariantViolation⟩
    | some event_local_bytes =>
      ⟨{ b with
          event_local_bytes
          event_local_allocations :=
            b.event_local_allocations.insert data_id ⟨file_identity, .Active, length⟩ },
        { runtime_budget := runtime_claim.commit, data_id_allocator },
        .ok (.Delivered ⟨data_id, 2 ^ 32 - 1, 0, length, metadata, true⟩)⟩

def allocate_event_local_payload (calls : AvSystemCalls) :
    AvCall (AvResult AvPayloadDeliveryOutcome) :=
  match b.event_local_candidate shared payload.length with
  | .error e => ⟨b, shared, .error e⟩
  | .ok (some outcome) => ⟨b, shared, .ok outcome⟩
  | .ok none =>
    match PendingAvRuntimeClaim.prepare shared.runtime_budget payload.length with
    | .error e => ⟨b, shared, .error e⟩
    | .ok none => ⟨b, shared, .ok .NoFreeSlot⟩
    | .ok (some runtime_claim) =>
      match write_event_local calls with
      | .error e => ⟨b, { shared with runtime_budget := runtime_claim.drop }, .error e⟩
      | .ok file_identity =>
        b.insert_event_local shared runtime_claim file_identity payload.length metadata

/-- A payload that finds no free slot gets a buffer of its own. -/
def allocate_payload_bytes (calls : AvSystemCalls) : AvCall (AvResult AvPayloadDeliveryOutcome) :=
  match b.shared_slot_candidate shared payload.length with
  | .error _ => b.allocate_event_local_payload shared payload metadata calls
  | .ok slot_index =>
    match PendingAvRuntimeClaim.prepare shared.runtime_budget payload.length with
    | .error e => ⟨b, shared, .error e⟩
    | .ok none => ⟨b, shared, .ok .NoFreeSlot⟩
    | .ok (some runtime_claim) =>
      match b.write_slot calls with
      | .error e => ⟨b, { shared with runtime_budget := runtime_claim.drop }, .error e⟩
      | .ok () =>
        let filled := b.fill_slot shared runtime_claim slot_index payload.length metadata
        ⟨filled.backing, filled.shared, .ok filled.result⟩

def data_id_state : AvDataIdState :=
  if b.slots.any (·.active_data_id == some data_id) then .ActiveShared
  else if (b.event_local_allocations.get data_id).isSome then .ActiveEventLocal
  else .Unknown

def release_slot : AvCall Bool :=
  match b.slots.findIdx? (·.active_data_id == some data_id) with
  | none => ⟨b, shared, false⟩
  | some slot_index =>
    match shared.runtime_budget.release ((b.slots.map (·.data_length)).getD slot_index 0) with
    | (runtime_budget, false) => ⟨b, { shared with runtime_budget }, false⟩
    | (runtime_budget, true) =>
      ⟨{ b with slots := b.slots.modify slot_index fun slot =>
          { slot with active_data_id := none, data_length := 0 } },
        { shared with runtime_budget }, true⟩

/-- The release of the payload of a data id, as the discard and the release of a handle do it. -/
def release_data_id : AvCall Bool :=
  match b.event_local_allocations.get data_id with
  | none => b.release_slot shared data_id
  | some allocation =>
    match checked_sub b.event_local_bytes allocation.length with
    | none => ⟨b, shared, false⟩
    | some event_local_bytes =>
      match shared.runtime_budget.release allocation.length with
      | (runtime_budget, false) => ⟨b, { shared with runtime_budget }, false⟩
      | (runtime_budget, true) =>
        ⟨{ b with
            event_local_allocations := b.event_local_allocations.erase data_id
            event_local_bytes },
          { shared with runtime_budget }, true⟩

def discard_undelivered_data_id : AvCall Bool := b.release_data_id shared data_id

/-- The kind of a handle: the shared buffer, the buffer of an event, or neither. -/
def handle_kind : AvHandleReleaseDescriptor → AvHandleReleaseKind
  | .Empty => .Empty
  | .File identity =>
    if b.shared_handle_identity = some identity then .Shared
    else
      match b.event_local_allocations.items.find? (·.2.file_identity = identity) with
      | some (data_id, allocation) => .EventLocal data_id allocation.handle_lease_state
      | none => .UnknownFile

def classify_release : AvHandleReleaseOutcome :=
  AvHandleReleaseTxn.classify
    ⟨b.handle_kind descriptor, data_id, b.state, filter_state, b.data_id_state data_id⟩

def apply_release : AvCall AvHandleReleaseOutcome :=
  let outcome := b.classify_release descriptor data_id filter_state
  match outcome with
  | .ClientHandleReleased | .ClientHandleReleaseAfterClose =>
    ⟨b.mark_client_released, shared, outcome⟩
  | .EventLocalHandleReleased data_id =>
    match b.event_local_allocations.get data_id with
    | none => ⟨b, shared, .RegistryFailure⟩
    | some allocation =>
      ⟨{ b with
          event_local_allocations := b.event_local_allocations.insert data_id
            { allocation with handle_lease_state := .Finalized } }, shared, outcome⟩
  | .SlotReleased data_id =>
    let released := b.release_data_id shared data_id
    ⟨released.backing, released.shared, if released.result then outcome else .RegistryFailure⟩
  | _ => ⟨b, shared, outcome⟩

/-- The drop of the backing: all its bytes go back to the budget. -/
def drop : AvRuntime :=
  let shared_bytes := (b.active_slots.map (·.data_length)).foldl (saturating_add USIZE_MAX) 0
  let total := saturating_add USIZE_MAX shared_bytes b.event_local_bytes
  if total ≠ 0 then
    { shared with runtime_budget := shared.runtime_budget.release_after_owner_drop total }
  else shared

end AvSharedBacking

/-! ## The service -/

/-- The backings that are live, and what they share. -/
structure AvService where
  shared : AvRuntime
  backings : Pool AvSharedBacking := {}

/-- One call. Backings are named by their identity in the pool. -/
inductive AvAction
  | with_profile_limits (slot_count slot_size max_event_bytes max_outstanding_events
      per_filter_live_bytes : Nat)
  | export_handle (backing : Nat) (calls : AvSystemCalls)
  | allocate_payload (backing data_length : Nat)
  | allocate_payload_bytes (backing : Nat) (payload : List UInt8) (metadata : AvMediaEventMetadata)
      (calls : AvSystemCalls)
  | apply_release (backing : Nat) (descriptor : AvHandleReleaseDescriptor) (data_id : Int)
      (filter_state : AvFilterReleaseState)
  | discard_undelivered_data_id (backing : Nat) (data_id : Int)
  | drop (backing : Nat)

inductive AvAnswer
  | absent
  | opened (backing : Nat)
  | exported (result : AvResult Nat)
  | allocated (result : AvResult AvPayloadDeliveryOutcome)
  | released (outcome : AvHandleReleaseOutcome)
  | discarded (result : Bool)
  | dropped

namespace AvService

/-- The service behind a call on the backing `id`. -/
def put {α : Type} (s : AvService) (id : Nat) (call : AvCall α) : AvService :=
  { shared := call.shared, backings := s.backings.set id call.backing }

/-- A call on the backing `id`, if it is live. -/
def on_backing (s : AvService) (id : Nat) (act : AvSharedBacking → AvService × AvAnswer) :
    AvService × AvAnswer :=
  match s.backings.get id with
  | none => (s, .absent)
  | some b => act b

def step (s : AvService) : AvAction → AvService × AvAnswer
  | .with_profile_limits slot_count slot_size max_event_bytes max_outstanding_events
      per_filter_live_bytes =>
    ({ s with backings := s.backings.add (.with_profile_limits slot_count slot_size max_event_bytes
        max_outstanding_events per_filter_live_bytes) }, .opened s.backings.next)
  | .export_handle backing calls =>
    s.on_backing backing fun b =>
      ({ s with backings := s.backings.set backing (b.export_handle calls).1 },
        .exported (b.export_handle calls).2)
  | .allocate_payload backing data_length =>
    s.on_backing backing fun b =>
      (s.put backing (b.allocate_payload s.shared data_length),
        .allocated (.ok (b.allocate_payload s.shared data_length).result))
  | .allocate_payload_bytes backing payload metadata calls =>
    s.on_backing backing fun b =>
      (s.put backing (b.allocate_payload_bytes s.shared payload metadata calls),
        .allocated (b.allocate_payload_bytes s.shared payload metadata calls).result)
  | .apply_release backing descriptor data_id filter_state =>
    s.on_backing backing fun b =>
      (s.put backing (b.apply_release s.shared descriptor data_id filter_state),
        .released (b.apply_release s.shared descriptor data_id filter_state).result)
  | .discard_undelivered_data_id backing data_id =>
    s.on_backing backing fun b =>
      (s.put backing (b.discard_undelivered_data_id s.shared data_id),
        .discarded (b.discard_undelivered_data_id s.shared data_id).result)
  | .drop backing =>
    s.on_backing backing fun b =>
      ({ shared := b.drop s.shared, backings := s.backings.remove backing }, .dropped)

end AvService

end tuner_hal2_demux.av
