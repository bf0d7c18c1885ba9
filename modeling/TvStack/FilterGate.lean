-- The gate between the producers of a filter and its drains. A producer holds a
-- permit while it queues events and counts record output. A drain waits until no
-- permit is out and starts a new generation. A guard that is dropped gives its
-- part back, and closes the gate only when it cannot.
import TvStack.QueueEpoch

open Machines Words

namespace tuner_hal2_demux.queue_runtime

variable {α : Type*}

inductive GateState
  | Open
  | Draining
  | Closed
  deriving DecidableEq

/-- The state under the mutex. The events of the pipeline are of the type `α`. -/
structure GateData (α : Type*) where
  state : GateState := .Open
  filter_delivery_generation : Nat := 0
  parser_state_generation : Nat := 0
  admitted_producer_count : Nat := 0
  pending_events : List α := []
  pending_event_capacity : Nat
  record_output_byte_offset : Nat := 0

inductive FilterDrainBoundary
  | Flush
  | Reconfigure
  deriving DecidableEq

/-- A permit that is not consumed yet, so that its `active` is set. -/
structure FilterProducerPermit where
  delivery_generation : Nat

structure FilterDrainTxn where
  boundary : FilterDrainBoundary
  (delivery_generation parser_generation next_delivery_generation next_parser_generation : Nat)

def gate_error (detail : String) : QueueRuntimeError := ⟨.StructuralDescriptor, detail⟩

/-! ## The gate -/

namespace GateData

/-- `reserves` says whether the room for the events can be reserved. -/
def new (pending_event_capacity : Nat) (reserves : Bool) : QueueResult (GateData α) :=
  if pending_event_capacity = 0 then
    .error (gate_error "filter producer gate pending event capacity must be positive")
  else if ¬ reserves then
    .error (gate_error "filter producer gate pending event reservation failed")
  else .ok { pending_event_capacity }

variable (data : GateData α)

def begin_producer : QueueResult (GateData α × FilterProducerPermit) :=
  if data.state ≠ .Open then .error (gate_error "filter producer gate is draining or closed")
  else
    match checked_add USIZE_MAX data.admitted_producer_count 1 with
    | none => .error (gate_error "filter producer permit count overflow")
    | some count =>
      .ok ({ data with admitted_producer_count := count }, ⟨data.filter_delivery_generation⟩)

/-- The delivery generation that a drain starts. -/
def next_delivery_generation : FilterDrainBoundary → Option Nat
  | .Flush => some data.filter_delivery_generation
  | .Reconfigure => checked_add U64_MAX data.filter_delivery_generation 1

/-- The first lock hold of `begin_drain`, up to its wait: the next delivery and parser
generations. -/
def begin_drain (boundary : FilterDrainBoundary) : QueueResult (GateData α × Nat × Nat) :=
  if data.state ≠ .Open then .error (gate_error "filter producer gate is not open")
  else
    match checked_add U64_MAX data.parser_state_generation 1 with
    | none => .error (gate_error "filter parser generation exhausted")
    | some next_parser_generation =>
      match data.next_delivery_generation boundary with
      | none => .error (gate_error "filter delivery generation exhausted")
      | some next_delivery_generation =>
        .ok ({ data with state := .Draining }, next_delivery_generation, next_parser_generation)

def take_pending_events : QueueResult (GateData α × List α) :=
  match data.state with
  | .Open => .ok ({ data with pending_events := [] }, data.pending_events)
  | .Draining => .ok (data, [])
  | .Closed => .error (gate_error "filter producer gate is closed while taking events")

def close : GateData α := { data with state := .Closed, pending_events := [] }

end GateData

/-! ## The guards -/

/-- What a method that consumes its guard leaves. A guard that is not spent is dropped next. -/
structure GateUse (α : Type*) where
  data : GateData α
  spent : Bool
  result : QueueResult Unit

namespace FilterProducerPermit

def record_output_byte_offset (p : FilterProducerPermit) (data : GateData α) : QueueResult Nat :=
  if data.state = .Closed ∨ data.filter_delivery_generation ≠ p.delivery_generation then
    .error (gate_error "filter producer permit is stale")
  else .ok data.record_output_byte_offset

variable (p : FilterProducerPermit) (data : GateData α)

/-- The event queue of a record commit. A full queue takes no event. -/
def push_event (event_queue_full : Bool) (event : Option α) : List α :=
  if event_queue_full then data.pending_events else data.pending_events ++ event.toList

def commit_record_output (committed_bytes : Nat) (event : Option α) : GateUse α :=
  if committed_bytes = 0 then ⟨data, false, .error (gate_error "record output commit is invalid")⟩
  else if data.filter_delivery_generation ≠ p.delivery_generation then
    ⟨data, false, .error (gate_error "filter producer permit generation changed")⟩
  else
    match checked_add U64_MAX data.record_output_byte_offset committed_bytes with
    | none => ⟨data, false, .error (gate_error "record output byte offset exhausted")⟩
    | some next_offset =>
      let event_queue_full :=
        event.isSome && decide (data.pending_event_capacity ≤ data.pending_events.length)
      let written := { data with
        record_output_byte_offset := next_offset
        pending_events := push_event data event_queue_full event }
      match checked_sub data.admitted_producer_count 1 with
      | none => ⟨written, false, .error (gate_error "filter producer permit count underflow")⟩
      | some count =>
        ⟨{ written with admitted_producer_count := count }, true,
          if event_queue_full then
            .error (gate_error "filter producer pending event queue is full")
          else if data.state = .Closed then
            .error (gate_error "filter producer gate closed before record output commit")
          else .ok ()⟩

def enqueue_event (event : α) : QueueResult (GateData α) :=
  if data.state = .Closed ∨ data.filter_delivery_generation ≠ p.delivery_generation then
    .error (gate_error "filter producer permit is stale")
  else if data.pending_event_capacity ≤ data.pending_events.length then
    .error (gate_error "filter producer pending event queue is full")
  else .ok { data with pending_events := data.pending_events ++ [event] }

def release : QueueResult (GateData α × GateState) :=
  if data.filter_delivery_generation ≠ p.delivery_generation then
    .error (gate_error "filter producer permit generation changed")
  else
    match checked_sub data.admitted_producer_count 1 with
    | none => .error (gate_error "filter producer permit count underflow")
    | some count => .ok ({ data with admitted_producer_count := count }, data.state)

def commit (p : FilterProducerPermit) (data : GateData α) : GateUse α :=
  match p.release data with
  | .error e => ⟨data, false, .error e⟩
  | .ok (data, gate_state) =>
    ⟨data, true, if gate_state = .Closed then
      .error (gate_error "filter producer gate closed before commit") else .ok ()⟩

def drop : GateData α :=
  match p.release data with
  | .error _ => data.close
  | .ok (data, _) => data

end FilterProducerPermit

namespace FilterDrainTxn

variable (d : FilterDrainTxn) (data : GateData α)

/-- The check of the drain before it takes events or commits. -/
def changed : Bool :=
  data.state != .Draining || data.filter_delivery_generation != d.delivery_generation ||
    data.parser_state_generation != d.parser_generation || data.admitted_producer_count != 0

def take_pending_events : QueueResult (GateData α × List α) :=
  if d.changed data then
    .error (gate_error "filter producer drain state changed before draining events")
  else .ok ({ data with pending_events := [] }, data.pending_events)

/-- The gate behind a committed drain of either boundary. -/
def reopen : GateData α :=
  { data with
    pending_events := []
    filter_delivery_generation := d.next_delivery_generation
    parser_state_generation := d.next_parser_generation
    state := .Open }

def commit (d : FilterDrainTxn) (data : GateData α) : QueueResult (GateData α) :=
  if d.changed data then
    .error (gate_error "filter producer drain state changed before commit")
  else .ok (d.reopen data)

def commit_and_take_pending_events : QueueResult (GateData α × List α) :=
  if d.changed data then
    .error (gate_error "filter producer drain state changed before commit")
  else .ok (d.reopen data, data.pending_events)

def rollback (d : FilterDrainTxn) (data : GateData α) : QueueResult (GateData α) :=
  if data.state ≠ .Draining ∨ data.filter_delivery_generation ≠ d.delivery_generation ∨
      data.parser_state_generation ≠ d.parser_generation then
    .error (gate_error "filter producer drain state changed before rollback")
  else .ok { data with state := .Open }

def drop : GateData α :=
  match d.rollback data with
  | .error _ => data.close
  | .ok data => data

end FilterDrainTxn

/-! ## The threads -/

/-- A thread inside a drain. It waits for the producers, or holds the drain. -/
inductive FilterDrain
  | waiting (boundary : FilterDrainBoundary) (next_delivery_generation next_parser_generation : Nat)
  | held (txn : FilterDrainTxn)

/-- One gate, and the guards that are out. -/
structure FilterProducerDrainGate (α : Type*) where
  data : GateData α
  permits : Pool FilterProducerPermit := {}
  drains : Pool FilterDrain := {}

namespace FilterProducerDrainGate

/-- One lock hold or drop. Permits and drains are named by their identity in their pool. -/
inductive Action (α : Type*)
  | begin_producer
  | record_output_byte_offset (permit : Nat)
  | commit_record_output (permit committed_bytes : Nat) (event : Option α)
  | enqueue_event (permit : Nat) (event : α)
  | release (permit : Nat)
  | commit (permit : Nat)
  | drop (permit : Nat)
  | begin_drain (boundary : FilterDrainBoundary)
  | wake (drain : Nat)
  | take_drained_events (drain : Nat)
  | commit_drain (drain : Nat)
  | commit_and_take_pending_events (drain : Nat)
  | rollback (drain : Nat)
  | drop_drain (drain : Nat)
  | take_pending_events
  | close

inductive Answer (α : Type*)
  | absent
  | done
  | admitted (permit : Nat)
  | offset (bytes : Nat)
  | waiting (drain : Nat)
  | draining (drain : Nat)
  | drained (events : List α)
  | committed (events : List α)
  | taken (events : List α)
  | refused (error : QueueRuntimeError)
  deriving DecidableEq

/-- The answer of a result with no value. -/
def Answer.of : QueueResult Unit → Answer α
  | .ok _ => .done
  | .error e => .refused e

/-- The gate that `new` gives, with no guard out. -/
def fresh (pending_event_capacity : Nat) : FilterProducerDrainGate α :=
  { data := { pending_event_capacity } }

variable (g : FilterProducerDrainGate α) (id : Nat)

/-- A method that consumes the permit `id`. -/
def consume_permit (u : GateUse α) : FilterProducerDrainGate α × Answer α :=
  ({ g with data := u.data, permits := if u.spent then g.permits.remove id else g.permits },
    .of u.result)

/-- A method that consumes the drain `id` when it succeeds, with its answer. -/
def consume_drain (r : QueueResult (GateData α × Answer α)) :
    FilterProducerDrainGate α × Answer α :=
  match r with
  | .error e => (g, .refused e)
  | .ok (data, answer) => ({ g with data, drains := g.drains.remove id }, answer)

def start_drain (boundary : FilterDrainBoundary) : FilterProducerDrainGate α × Answer α :=
  match g.data.begin_drain boundary with
  | .error e => (g, .refused e)
  | .ok (data, next_delivery, next_parse) =>
    if data.admitted_producer_count ≠ 0 then
      ({ g with data, drains := g.drains.add (.waiting boundary next_delivery next_parse) },
        .waiting g.drains.next)
    else
      ({ g with
        data
        drains := g.drains.add (.held ⟨boundary, data.filter_delivery_generation,
          data.parser_state_generation, next_delivery, next_parse⟩) }, .draining g.drains.next)

/-- The end of one wait of a drain. It waits again while a producer is admitted. -/
def wake (boundary : FilterDrainBoundary) (next_delivery next_parse : Nat) :
    FilterProducerDrainGate α × Answer α :=
  if g.data.state ≠ .Draining then
    ({ g with drains := g.drains.remove id },
      .refused (gate_error "filter producer gate left draining state while waiting"))
  else if g.data.admitted_producer_count ≠ 0 then (g, .waiting id)
  else
    ({ g with drains := g.drains.set id (.held ⟨boundary, g.data.filter_delivery_generation,
        g.data.parser_state_generation, next_delivery, next_parse⟩) }, .draining id)

/-- An action on the permit `id`, if it is out. -/
def on_permit (act : FilterProducerPermit → FilterProducerDrainGate α × Answer α) :
    FilterProducerDrainGate α × Answer α :=
  match g.permits.get id with
  | none => (g, .absent)
  | some p => act p

/-- An action on the drain `id`, if a thread holds it. -/
def on_drain (act : FilterDrainTxn → FilterProducerDrainGate α × Answer α) :
    FilterProducerDrainGate α × Answer α :=
  match g.drains.get id with
  | some (.held txn) => act txn
  | _ => (g, .absent)

def step : Action α → FilterProducerDrainGate α × Answer α
  | .begin_producer =>
    match g.data.begin_producer with
    | .error e => (g, .refused e)
    | .ok (data, p) => ({ g with data, permits := g.permits.add p }, .admitted g.permits.next)
  | .record_output_byte_offset permit =>
    g.on_permit permit fun p =>
      match p.record_output_byte_offset g.data with
      | .error e => (g, .refused e)
      | .ok bytes => (g, .offset bytes)
  | .commit_record_output permit committed_bytes event =>
    g.on_permit permit fun p =>
      g.consume_permit permit (p.commit_record_output g.data committed_bytes event)
  | .enqueue_event permit event =>
    g.on_permit permit fun p =>
      match p.enqueue_event g.data event with
      | .error e => (g, .refused e)
      | .ok data => ({ g with data }, .done)
  | .release permit =>
    g.on_permit permit fun p =>
      match p.release g.data with
      | .error e => (g, .refused e)
      | .ok (data, _) => ({ g with data, permits := g.permits.remove permit }, .done)
  | .commit permit => g.on_permit permit fun p => g.consume_permit permit (p.commit g.data)
  | .drop permit =>
    g.on_permit permit fun p =>
      ({ g with data := p.drop g.data, permits := g.permits.remove permit }, .done)
  | .begin_drain boundary => g.start_drain boundary
  | .wake drain =>
    match g.drains.get drain with
    | some (.waiting boundary next_delivery next_parse) =>
      g.wake drain boundary next_delivery next_parse
    | _ => (g, .absent)
  | .take_drained_events drain =>
    g.on_drain drain fun d =>
      match d.take_pending_events g.data with
      | .error e => (g, .refused e)
      | .ok (data, events) => ({ g with data }, .drained events)
  | .commit_drain drain =>
    g.on_drain drain fun d =>
      g.consume_drain drain ((d.commit g.data).map fun data => (data, .committed []))
  | .commit_and_take_pending_events drain =>
    g.on_drain drain fun d =>
      g.consume_drain drain
        ((d.commit_and_take_pending_events g.data).map fun (data, events) =>
          (data, .committed events))
  | .rollback drain =>
    g.on_drain drain fun d =>
      g.consume_drain drain ((d.rollback g.data).map fun data => (data, .done))
  | .drop_drain drain =>
    g.on_drain drain fun d =>
      ({ g with data := d.drop g.data, drains := g.drains.remove drain }, .done)
  | .take_pending_events =>
    match g.data.take_pending_events with
    | .error e => (g, .refused e)
    | .ok (data, events) => ({ g with data }, .taken events)
  | .close => ({ g with data := g.data.close }, .done)

end FilterProducerDrainGate

end tuner_hal2_demux.queue_runtime
