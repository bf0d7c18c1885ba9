-- The gate of a filter never leaks stale output: what holds over every
-- interleaving of producers, drains, drops, takes and the close of one gate.
import TvStack.FilterGate

open List Machines Words

namespace tuner_hal2_demux.queue_runtime.FilterProducerDrainGate

open FilterProducerPermit

variable {α : Type*} {g : FilterProducerDrainGate α} {a : Action α}
  {id : Nat} {p : FilterProducerPermit} {data : GateData α} {txn : FilterDrainTxn}
  {t : FilterProducerDrainGate α} {ans : Answer α}

/-! ## What an action and its answer say -/

def queue_full : QueueRuntimeError := gate_error "filter producer pending event queue is full"

/-- The errors of a record commit behind its update of the offset. -/
def late_errors : List QueueRuntimeError :=
  [queue_full, gate_error "filter producer gate closed before record output commit",
    gate_error "filter producer permit count underflow"]

/-- The errors that only a broken gate would give. -/
def impossible_errors : List QueueRuntimeError :=
  [gate_error "filter producer permit generation changed",
    gate_error "filter producer permit count underflow"]

/-- The answer of a record commit that reached the update of the offset. -/
def Answer.reached : Answer α → Bool
  | .done => true
  | .refused e => e ∈ late_errors
  | _ => false

def Answer.full : Answer α → Bool
  | .refused e => e == queue_full
  | _ => false

/-- The bytes that an action adds to the record output. -/
def Action.recorded : Action α → Answer α → Nat
  | .commit_record_output _ committed_bytes _, ans => if ans.reached then committed_bytes else 0
  | _, _ => 0

/-- The events that an action puts into the queue. -/
def Action.enqueued : Action α → Answer α → List α
  | .enqueue_event _ event, .done => [event]
  | .commit_record_output _ _ event, ans => if ans.reached && !ans.full then event.toList else []
  | _, _ => []

/-- The events that the gate's own `take_pending_events` returns. -/
def Answer.events : Answer α → List α
  | .taken events => events
  | _ => []

/-- An answer that hands out no guard, commits nothing, takes nothing, and is no impossible
error. -/
def Answer.Silent : Answer α → Prop
  | .admitted _ | .draining _ | .committed _ | .taken _ => False
  | .refused e => e ∉ impossible_errors
  | _ => True

/-- A silent answer to an action that neither queued nor recorded anything. -/
structure Quiet (a : Action α) (ans : Answer α) : Prop where
  silent : ans.Silent
  enqueued : a.enqueued ans = []
  recorded : a.recorded ans = 0

/-- A permit that the gate did not count, or of another generation. -/
def Broken (g : FilterProducerDrainGate α) (p : FilterProducerPermit) : Prop :=
  g.data.filter_delivery_generation ≠ p.delivery_generation ∨ g.data.admitted_producer_count = 0

/-! ## All that a step can do -/

/-- The step of one action on the gate and its guards, with the checks that it made and its
answer. -/
inductive Moves (g : FilterProducerDrainGate α) (a : Action α) :
    FilterProducerDrainGate α → Answer α → Prop
  | stay (ans : Answer α) (hans : Quiet a ans) : Moves g a g ans
  | broken (id : Nat) (p : FilterProducerPermit) (t : FilterProducerDrainGate α) (ans : Answer α)
      (hget : g.permits.get id = some p) (hbad : g.Broken p) : Moves g a t ans
  | enter (ha : a = .begin_producer) (hopen : g.data.state = .Open) :
      Moves g a { g with
        data := { g.data with admitted_producer_count := g.data.admitted_producer_count + 1 }
        permits := g.permits.add ⟨g.data.filter_delivery_generation⟩ } (.admitted g.permits.next)
  | enqueue (event : α) (ans : Answer α) (hsilent : ans.Silent) (hrec : a.recorded ans = 0)
      (henq : a.enqueued ans = [event])
      (hroom : g.data.pending_events.length < g.data.pending_event_capacity) :
      Moves g a { g with
        data := { g.data with pending_events := g.data.pending_events ++ [event] } } ans
  | record (id n : Nat) (p : FilterProducerPermit) (events : List α) (ans : Answer α)
      (hget : g.permits.get id = some p) (hsilent : ans.Silent) (hrec : a.recorded ans = n)
      (henq : a.enqueued ans = events)
      (hroom : events = [] ∨
        (g.data.pending_events ++ events).length ≤ g.data.pending_event_capacity) :
      Moves g a { g with
        data := { g.data with
          record_output_byte_offset := g.data.record_output_byte_offset + n
          pending_events := g.data.pending_events ++ events
          admitted_producer_count := g.data.admitted_producer_count - 1 }
        permits := g.permits.remove id } ans
  | release (id : Nat) (p : FilterProducerPermit) (ans : Answer α)
      (hget : g.permits.get id = some p) (hans : Quiet a ans) :
      Moves g a { g with
        data := { g.data with admitted_producer_count := g.data.admitted_producer_count - 1 }
        permits := g.permits.remove id } ans
  | start_waiting (boundary : FilterDrainBoundary) (next_delivery next_parse : Nat)
      (ha : a = .begin_drain boundary) (hopen : g.data.state = .Open) :
      Moves g a { g with
        data := { g.data with state := .Draining }
        drains := g.drains.add (.waiting boundary next_delivery next_parse) }
        (.waiting g.drains.next)
  | start_held (txn : FilterDrainTxn) (ha : a = .begin_drain txn.boundary)
      (hopen : g.data.state = .Open) (hcount : g.data.admitted_producer_count = 0) :
      Moves g a { g with
        data := { g.data with state := .Draining }
        drains := g.drains.add (.held txn) } (.draining g.drains.next)
  | hand (id : Nat) (txn : FilterDrainTxn) (ha : a = .wake id)
      (hstate : g.data.state = .Draining) (hcount : g.data.admitted_producer_count = 0) :
      Moves g a { g with drains := g.drains.set id (.held txn) } (.draining id)
  | give_up (id : Nat) (d : FilterDrain) (ans : Answer α) (hget : g.drains.get id = some d)
      (hans : Quiet a ans) : Moves g a { g with drains := g.drains.remove id } ans
  | empty (events : List α) (ha : a.enqueued (.drained events) = [])
      (hrec : a.recorded (.drained events) = 0) :
      Moves g a { g with data := { g.data with pending_events := [] } } (.drained events)
  | commit (id : Nat) (txn : FilterDrainTxn) (events : List α)
      (hget : g.drains.get id = some (.held txn)) (ha : a.enqueued (.committed events) = [])
      (hrec : a.recorded (.committed events) = 0) (hstate : g.data.state = .Draining)
      (hcount : g.data.admitted_producer_count = 0) :
      Moves g a { g with data := txn.reopen g.data, drains := g.drains.remove id }
        (.committed events)
  | rollback (id : Nat) (d : FilterDrain) (hget : g.drains.get id = some d)
      (hstate : g.data.state = .Draining) (hans : Quiet a .done) :
      Moves g a { g with data := { g.data with state := .Open }, drains := g.drains.remove id }
        .done
  | drop_drain (id : Nat) (d : FilterDrain) (hget : g.drains.get id = some d)
      (hans : Quiet a .done) :
      Moves g a { g with data := g.data.close, drains := g.drains.remove id } .done
  | take (ha : a = .take_pending_events) (hopen : g.data.state = .Open) :
      Moves g a { g with data := { g.data with pending_events := [] } }
        (.taken g.data.pending_events)
  | take_none (ha : a = .take_pending_events) : Moves g a g (.taken [])
  | close (hans : Quiet a .done) : Moves g a { g with data := g.data.close } .done

/-- The step of an action makes one of the moves. -/
def Steps (g : FilterProducerDrainGate α) (a : Action α) : Prop :=
  g.Moves a (g.step a).1 (g.step a).2

/-- An error outside the lists is quiet, whatever the action was. -/
theorem Quiet.refused (a : Action α) {e : QueueRuntimeError} (hlate : e ∉ late_errors)
    (hpossible : e ∉ impossible_errors) : Quiet a (.refused e) := by
  have hreached : (Answer.refused e : Answer α).reached = false := decide_eq_false hlate
  refine ⟨hpossible, ?_, ?_⟩
  · cases a with
    | commit_record_output permit committed_bytes event => simp [Action.enqueued, hreached]
    | _ => rfl
  · cases a with
    | commit_record_output permit committed_bytes event => simp [Action.recorded, hreached]
    | _ => rfl

theorem Moves.refuse {a : Action α} {e : QueueRuntimeError}
    (h : e ∉ late_errors ∧ e ∉ impossible_errors) : Moves g a g (.refused e) :=
  .stay _ (.refused a h.1 h.2)

theorem begin_producer_moves (g : FilterProducerDrainGate α) : g.Steps .begin_producer := by
  simp only [Steps, step, GateData.begin_producer, checked_add]
  split_ifs with hopen
  · exact .refuse (by decide)
  · exact .enter rfl (not_not.mp hopen)
  · exact .refuse (by decide)

/-- A release takes one from the count. A release that fails has a broken permit. -/
theorem release.spec (g : FilterProducerDrainGate α) (p : FilterProducerPermit) :
    p.release g.data = .ok ({ g.data with
      admitted_producer_count := g.data.admitted_producer_count - 1 }, g.data.state) ∨
    g.Broken p := by
  unfold release checked_sub Broken
  split
  · rename_i hgen
    exact .inr (.inl hgen)
  split_ifs
  · exact .inl rfl
  · exact .inr (.inr (by omega))

theorem release_moves (hget : g.permits.get id = some p) : g.Steps (.release id) := by
  simp only [Steps, step, on_permit, hget]
  rcases release.spec g p with hrel | hbad
  · rw [hrel]
    exact .release id p .done hget ⟨trivial, rfl, rfl⟩
  · exact .broken id p _ _ hget hbad

theorem commit_moves (hget : g.permits.get id = some p) : g.Steps (.commit id) := by
  simp only [Steps, step, on_permit, hget, commit]
  rcases release.spec g p with hrel | hbad
  · rw [hrel]
    refine .release id p _ hget ?_
    dsimp only
    split
    · exact .refused _ (by decide) (by decide)
    · exact ⟨trivial, rfl, rfl⟩
  · exact .broken id p _ _ hget hbad

theorem drop_moves (hget : g.permits.get id = some p) : g.Steps (.drop id) := by
  simp only [Steps, step, on_permit, hget, FilterProducerPermit.drop]
  rcases release.spec g p with hrel | hbad
  · rw [hrel]
    exact .release id p .done hget ⟨trivial, rfl, rfl⟩
  · exact .broken id p _ _ hget hbad

theorem enqueue_moves (event : α) (hget : g.permits.get id = some p) :
    g.Steps (.enqueue_event id event) := by
  simp only [Steps, step, on_permit, hget, enqueue_event]
  split_ifs
  · exact .refuse (by decide)
  · exact .stay _ ⟨(by decide : queue_full ∉ impossible_errors), rfl, rfl⟩
  · exact .enqueue event .done trivial rfl rfl (by omega)

/-- A record commit behind its checks, of a permit that fits and is counted. -/
theorem commit_record_output.reaches {n : Nat} {event : Option α} (hn : n ≠ 0)
    (hgen : data.filter_delivery_generation = p.delivery_generation)
    (hmax : data.record_output_byte_offset + n ≤ U64_MAX) (hpos : 1 ≤ data.admitted_producer_count)
    {full : Bool} (hfull :
      (event.isSome && decide (data.pending_event_capacity ≤ data.pending_events.length)) = full) :
    p.commit_record_output data n event =
      ⟨{ data with
        record_output_byte_offset := data.record_output_byte_offset + n
        pending_events := data.pending_events ++ (if full then [] else event.toList)
        admitted_producer_count := data.admitted_producer_count - 1 }, true,
        if full then .error queue_full
        else if data.state = .Closed then
          .error (gate_error "filter producer gate closed before record output commit")
        else .ok ()⟩ := by
  have hpush : push_event data full event =
      data.pending_events ++ (if full then [] else event.toList) := by
    cases full with
    | true => exact (append_nil _).symm
    | false => rfl
  rw [← hpush]
  simp only [commit_record_output, checked_add, checked_sub, hn, hgen, hmax,
    hpos, hfull, ne_eq, not_true_eq_false, if_false, if_true, queue_full]

theorem commit_record_moves {n : Nat} (event : Option α) (hget : g.permits.get id = some p) :
    g.Steps (.commit_record_output id n event) := by
  simp only [Steps, step, on_permit, hget]
  by_cases hn : n = 0
  · rw [commit_record_output, if_pos hn]
    exact .refuse (by decide)
  by_cases hgen : g.data.filter_delivery_generation = p.delivery_generation
  swap
  · exact .broken id p _ _ hget (.inl hgen)
  by_cases hpos : 1 ≤ g.data.admitted_producer_count
  swap
  · exact .broken id p _ _ hget (.inr (by omega))
  by_cases hmax : g.data.record_output_byte_offset + n ≤ U64_MAX
  swap
  · rw [commit_record_output, if_neg hn, if_neg (not_not.mpr hgen), checked_add,
      if_neg hmax]
    exact .refuse (by decide)
  generalize hfull : (event.isSome &&
    decide (g.data.pending_event_capacity ≤ g.data.pending_events.length)) = full
  rw [commit_record_output.reaches hn hgen hmax hpos hfull]
  cases full with
  | true =>
    -- the bytes are counted, and the event is lost
    exact .record id n p [] (.refused queue_full) hget
      (by decide : queue_full ∉ impossible_errors) rfl rfl (.inl rfl)
  | false =>
    have hroom : event.toList = [] ∨
        (g.data.pending_events ++ event.toList).length ≤ g.data.pending_event_capacity := by
      cases event with
      | none => exact .inl rfl
      | some e =>
        simp only [Option.isSome_some, Bool.true_and, decide_eq_false_iff_not] at hfull
        simp only [Option.toList_some, length_append, length_singleton]
        omega
    by_cases hclosed : g.data.state = .Closed
    · rw [if_pos hclosed]
      exact .record id n p event.toList _ hget (by decide :
        gate_error "filter producer gate closed before record output commit" ∉ impossible_errors)
        rfl rfl hroom
    · rw [if_neg hclosed]
      exact .record id n p event.toList .done hget trivial rfl rfl hroom

theorem start_drain_moves (g : FilterProducerDrainGate α) (boundary : FilterDrainBoundary) :
    g.Moves (.begin_drain boundary) (g.start_drain boundary).1 (g.start_drain boundary).2 := by
  unfold start_drain GateData.begin_drain
  split_ifs with hopen
  · exact .refuse (by decide)
  cases checked_add U64_MAX g.data.parser_state_generation 1 with
  | none => exact .refuse (by decide)
  | some next_parse =>
    cases g.data.next_delivery_generation boundary with
    | none => exact .refuse (by decide)
    | some next_delivery =>
      dsimp only
      split
      · exact .start_waiting boundary next_delivery next_parse rfl (not_not.mp hopen)
      · exact .start_held _ rfl (not_not.mp hopen) (by omega)

theorem wake_moves {next_delivery next_parse : Nat} {boundary : FilterDrainBoundary}
    (hget : g.drains.get id = some (.waiting boundary next_delivery next_parse)) :
    g.Moves (.wake id) (g.wake id boundary next_delivery next_parse).1
      (g.wake id boundary next_delivery next_parse).2 := by
  unfold wake
  split
  · exact .give_up id _ _ hget (.refused _ (by decide) (by decide))
  rename_i hstate
  split
  · exact .stay _ ⟨trivial, rfl, rfl⟩
  · rename_i hcount
    exact .hand id _ rfl (not_not.mp hstate) (not_not.mp hcount)

/-- A drain whose check passes holds the gate alone. -/
theorem unchanged (h : txn.changed data = false) :
    data.state = .Draining ∧ data.admitted_producer_count = 0 := by
  simp only [FilterDrainTxn.changed, Bool.or_eq_false_iff, bne_eq_false_iff_eq] at h
  exact ⟨h.1.1.1, h.2⟩

section

variable (hget : g.drains.get id = some (.held txn))
include hget

theorem take_drained_moves : g.Steps (.take_drained_events id) := by
  simp only [Steps, step, on_drain, hget, FilterDrainTxn.take_pending_events]
  cases txn.changed g.data with
  | true => exact .refuse (by decide)
  | false => exact .empty g.data.pending_events rfl rfl

theorem commit_drain_moves : g.Steps (.commit_drain id) := by
  simp only [Steps, step, on_drain, hget, FilterDrainTxn.commit]
  cases hch : txn.changed g.data with
  | true => exact .refuse (by decide)
  | false =>
    obtain ⟨hstate, hcount⟩ := unchanged hch
    exact .commit id txn [] hget rfl rfl hstate hcount

theorem commit_and_take_moves : g.Steps (.commit_and_take_pending_events id) := by
  simp only [Steps, step, on_drain, hget, FilterDrainTxn.commit_and_take_pending_events]
  cases hch : txn.changed g.data with
  | true => exact .refuse (by decide)
  | false =>
    obtain ⟨hstate, hcount⟩ := unchanged hch
    exact .commit id txn g.data.pending_events hget rfl rfl hstate hcount

end

theorem rollback.spec (txn : FilterDrainTxn) (data : GateData α) :
    (data.state = .Draining ∧ txn.rollback data = .ok { data with state := .Open }) ∨
      txn.rollback data =
        .error (gate_error "filter producer drain state changed before rollback") := by
  unfold FilterDrainTxn.rollback
  split
  · exact .inr rfl
  · rename_i hsame
    exact .inl ⟨not_not.mp fun hne => hsame (.inl hne), rfl⟩

theorem rollback_moves (hget : g.drains.get id = some (.held txn)) : g.Steps (.rollback id) := by
  simp only [Steps, step, on_drain, hget]
  rcases rollback.spec txn g.data with ⟨hstate, hroll⟩ | hroll
  · rw [hroll]
    exact .rollback id _ hget hstate ⟨trivial, rfl, rfl⟩
  · rw [hroll]
    exact .refuse (by decide)

theorem drop_drain_moves (hget : g.drains.get id = some (.held txn)) :
    g.Steps (.drop_drain id) := by
  simp only [Steps, step, on_drain, hget, FilterDrainTxn.drop]
  rcases rollback.spec txn g.data with ⟨hstate, hroll⟩ | hroll
  · rw [hroll]
    exact .rollback id _ hget hstate ⟨trivial, rfl, rfl⟩
  · rw [hroll]
    exact .drop_drain id _ hget ⟨trivial, rfl, rfl⟩

theorem take_pending_moves (g : FilterProducerDrainGate α) : g.Steps .take_pending_events := by
  cases hstate : g.data.state with
  | Open =>
    have htake : g.data.take_pending_events =
        .ok ({ g.data with pending_events := [] }, g.data.pending_events) := by
      simp only [GateData.take_pending_events, hstate]
    simp only [Steps, step, htake]
    exact .take rfl hstate
  | Draining =>
    simp only [Steps, step, GateData.take_pending_events, hstate]
    exact .take_none rfl
  | Closed =>
    simp only [Steps, step, GateData.take_pending_events, hstate]
    exact .refuse (by decide)

/-- An action on a guard that is not out changes nothing. -/
theorem Quiet.absent (a : Action α) : Quiet a .absent := by
  cases a <;> exact ⟨trivial, rfl, rfl⟩

theorem on_permit_moves {act : FilterProducerPermit → FilterProducerDrainGate α × Answer α}
    (ha : g.step a = g.on_permit id act)
    (h : ∀ p, g.permits.get id = some p → g.Steps a) : g.Steps a := by
  cases hget : g.permits.get id with
  | none =>
    rw [Steps, ha, on_permit, hget]
    exact .stay _ (.absent a)
  | some p => exact h p hget

theorem on_drain_moves {act : FilterDrainTxn → FilterProducerDrainGate α × Answer α}
    (ha : g.step a = g.on_drain id act)
    (h : ∀ txn, g.drains.get id = some (.held txn) → g.Steps a) : g.Steps a := by
  unfold Steps at h ⊢
  rw [ha] at h ⊢
  unfold on_drain at h ⊢
  split
  · rename_i txn hget
    simpa only [hget] using h txn hget
  · exact .stay _ (.absent a)

theorem read_offset_moves (hget : g.permits.get id = some p) :
    g.Steps (.record_output_byte_offset id) := by
  simp only [Steps, step, on_permit, hget, record_output_byte_offset]
  split_ifs
  · exact .refuse (by decide)
  · exact .stay _ ⟨trivial, rfl, rfl⟩

theorem step_moves (g : FilterProducerDrainGate α) (a : Action α) : g.Steps a := by
  cases a with
  | begin_producer => exact begin_producer_moves g
  | record_output_byte_offset permit =>
    exact on_permit_moves rfl fun p hget => read_offset_moves hget
  | commit_record_output permit n event =>
    exact on_permit_moves rfl fun p hget => commit_record_moves event hget
  | enqueue_event permit event => exact on_permit_moves rfl fun p hget => enqueue_moves event hget
  | release permit => exact on_permit_moves rfl fun p hget => release_moves hget
  | commit permit => exact on_permit_moves rfl fun p hget => commit_moves hget
  | drop permit => exact on_permit_moves rfl fun p hget => drop_moves hget
  | begin_drain boundary => exact start_drain_moves g boundary
  | wake drain =>
    simp only [Steps, step]
    split
    · rename_i boundary next_delivery next_parse hget
      exact wake_moves hget
    · exact .stay _ ⟨trivial, rfl, rfl⟩
  | take_drained_events drain => exact on_drain_moves rfl fun txn hget => take_drained_moves hget
  | commit_drain drain => exact on_drain_moves rfl fun txn hget => commit_drain_moves hget
  | commit_and_take_pending_events drain =>
    exact on_drain_moves rfl fun txn hget => commit_and_take_moves hget
  | rollback drain => exact on_drain_moves rfl fun txn hget => rollback_moves hget
  | drop_drain drain => exact on_drain_moves rfl fun txn hget => drop_drain_moves hget
  | take_pending_events => exact take_pending_moves g
  | close => exact .close ⟨trivial, rfl, rfl⟩

/-! ## The invariant -/

structure Good (g : FilterProducerDrainGate α) : Prop where
  permits_fit : ∀ p ∈ g.permits.values, g.data.filter_delivery_generation = p.delivery_generation
  counted : g.data.admitted_producer_count = g.permits.size
  one_drain : g.drains.size ≤ 1
  open_no_drain : g.data.state = .Open → g.drains.size = 0
  held_alone : ∀ txn, FilterDrain.held txn ∈ g.drains.values → g.data.admitted_producer_count = 0
  room : g.data.pending_events.length ≤ g.data.pending_event_capacity

/-- A permit that is out is counted and fits. -/
theorem Good.not_broken (h : g.Good) (hget : g.permits.get id = some p) : ¬ g.Broken p := by
  rintro (hne | hzero)
  · exact hne (h.permits_fit p (Pool.get_mem hget))
  · have hpos := Pool.size_pos hget
    rw [h.counted] at hzero
    omega

theorem Good.released (h : g.Good) (hget : g.permits.get id = some p) {offset : Nat}
    {events : List α} (hroom : events.length ≤ g.data.pending_event_capacity) :
    Good { g with
      data := { g.data with
        record_output_byte_offset := offset
        pending_events := events
        admitted_producer_count := g.data.admitted_producer_count - 1 }
      permits := g.permits.remove id } := by
  have hsize := Pool.size_remove hget
  have hcount := h.counted
  refine ⟨fun q hq => h.permits_fit q (Pool.mem_remove hq), ?_, h.one_drain, h.open_no_drain,
    fun txn htxn => ?_, hroom⟩
  · dsimp only
    omega
  · have hzero := h.held_alone txn htxn
    omega

/-- The only drain ends, and the permits fit the gate behind it. -/
theorem Good.drained (h : g.Good) {d : FilterDrain} (hget : g.drains.get id = some d)
    (hfits : ∀ p ∈ g.permits.values, data.filter_delivery_generation = p.delivery_generation)
    (hcount : data.admitted_producer_count = g.permits.size)
    (hroom : data.pending_events.length ≤ data.pending_event_capacity) :
    Good { g with data, drains := g.drains.remove id } :=
  have hnone := Pool.remove_only h.one_drain hget
  ⟨hfits, hcount, hnone.le.trans (Nat.zero_le _), fun _ => hnone,
    fun _ htxn => absurd htxn (Pool.not_mem_empty hnone), hroom⟩

theorem Moves.good (hm : g.Moves a t ans) (h : g.Good) : t.Good := by
  cases hm with
  | stay => exact h
  | broken id p _ _ hget hbad => exact absurd hbad (h.not_broken hget)
  | enter ha hopen =>
    refine ⟨Pool.all_add h.permits_fit rfl, ?_, h.one_drain, h.open_no_drain, ?_, h.room⟩
    · rw [Pool.size_add, ← h.counted]
    · intro txn htxn
      exact absurd htxn (Pool.not_mem_empty (h.open_no_drain hopen))
  | enqueue event _ _ _ _ hroom =>
    refine { h with room := ?_ }
    simp only [length_append, length_singleton]
    omega
  | record id n p events _ hget _ _ _ hroom =>
    refine h.released hget ?_
    rcases hroom with rfl | hroom
    · rw [append_nil]
      exact h.room
    · exact hroom
  | release id p _ hget _ => exact h.released hget h.room
  | start_waiting boundary next_delivery next_parse ha hopen =>
    have hnone := h.open_no_drain hopen
    refine ⟨h.permits_fit, h.counted, ?_, nofun, ?_, h.room⟩
    · exact Nat.le_of_eq (by rw [Pool.size_add, hnone])
    · intro txn htxn
      exact Pool.all_add_empty hnone (P := fun d => d = .held txn → _) nofun _ htxn rfl
  | start_held txn ha hopen hcount =>
    refine ⟨h.permits_fit, h.counted, ?_, nofun, fun _ _ => hcount, h.room⟩
    exact Nat.le_of_eq (by rw [Pool.size_add, h.open_no_drain hopen])
  | hand id txn ha hstate hcount =>
    refine ⟨h.permits_fit, h.counted, ?_, ?_, fun _ _ => hcount, h.room⟩
    · rw [Pool.size_set]
      exact h.one_drain
    · intro hopen
      rw [hstate] at hopen
      cases hopen
  | give_up _ _ _ hget _ | rollback _ _ hget _ _ =>
    exact h.drained hget h.permits_fit h.counted h.room
  | empty | take => exact { h with room := Nat.zero_le _ }
  | commit id txn _ hget _ _ _ hcount =>
    -- the new generation has no permit of the old one beside it
    have hnone : g.permits.size = 0 := h.counted ▸ hcount
    exact h.drained hget (fun p hp => absurd hp (Pool.not_mem_empty hnone)) h.counted
      (Nat.zero_le _)
  | drop_drain id d hget _ => exact h.drained hget h.permits_fit h.counted (Nat.zero_le _)
  | take_none => exact h
  | close => exact { h with open_no_drain := nofun, room := Nat.zero_le _ }

theorem fresh_good (pending_event_capacity : Nat) :
    (fresh pending_event_capacity : FilterProducerDrainGate α).Good :=
  ⟨nofun, rfl, Nat.zero_le _, fun _ => rfl, nofun, Nat.zero_le _⟩

theorem run_good (h : g.Good) (actions : List (Action α)) : (run step g actions).1.Good :=
  run_keeps (fun s a h => (s.step_moves a).good h) _ actions h

/-! ## The law -/

/-- What a move does to the queue and the offset, and what its answer hands out. -/
structure Moved (g : FilterProducerDrainGate α) (a : Action α) (t : FilterProducerDrainGate α)
    (ans : Answer α) : Prop where
  queue : (t.data.pending_events = g.data.pending_events ++ a.enqueued ans ∧ ans.events = []) ∨
    (t.data.pending_events = [] ∧ a.enqueued ans = [] ∧
      (ans.events = [] ∨ ans.events = g.data.pending_events))
  offset : t.data.record_output_byte_offset = g.data.record_output_byte_offset + a.recorded ans
  capacity : t.data.pending_event_capacity = g.data.pending_event_capacity
  closed : g.data.state = .Closed → t.data.state = .Closed
  admitted : ∀ permit, ans = .admitted permit → g.data.state = .Open
  handed : ∀ drain, ans = .draining drain → g.data.admitted_producer_count = 0
  committed : ∀ events, ans = .committed events → t.data.pending_events = []
  possible : ∀ e ∈ impossible_errors, ans ≠ .refused e

theorem Moved.of_silent (hans : ans.Silent)
    (hqueue : t.data.pending_events = g.data.pending_events ++ a.enqueued ans ∨
      (t.data.pending_events = [] ∧ a.enqueued ans = []))
    (hoffset : t.data.record_output_byte_offset = g.data.record_output_byte_offset + a.recorded ans)
    (hcapacity : t.data.pending_event_capacity = g.data.pending_event_capacity)
    (hclosed : g.data.state = .Closed → t.data.state = .Closed) : Moved g a t ans where
  queue := by
    have hevents : ans.events = [] := by
      cases ans with
      | taken events => exact hans.elim
      | _ => rfl
    rcases hqueue with hqueue | ⟨hqueue, henq⟩
    · exact .inl ⟨hqueue, hevents⟩
    · exact .inr ⟨hqueue, henq, .inl hevents⟩
  offset := hoffset
  capacity := hcapacity
  closed := hclosed
  admitted := by
    rintro permit rfl
    exact hans.elim
  handed := by
    rintro drain rfl
    exact hans.elim
  committed := by
    rintro events rfl
    exact hans.elim
  possible := by
    rintro e he rfl
    exact hans he

theorem Moved.of_quiet (hans : Quiet a ans)
    (hqueue : t.data.pending_events = g.data.pending_events ∨ t.data.pending_events = [])
    (hoffset : t.data.record_output_byte_offset = g.data.record_output_byte_offset)
    (hcapacity : t.data.pending_event_capacity = g.data.pending_event_capacity)
    (hclosed : g.data.state = .Closed → t.data.state = .Closed) : Moved g a t ans := by
  refine .of_silent hans.silent ?_ ?_ hcapacity hclosed
  · rw [hans.enqueued, append_nil]
    exact hqueue.imp_right fun hempty => ⟨hempty, rfl⟩
  · rw [hans.recorded]
    exact hoffset

theorem Moves.moved (hm : g.Moves a t ans) (h : g.Good) : Moved g a t ans := by
  have hnot {P : Prop} {state} (hstate : g.data.state = state) (hne : state ≠ .Closed)
      (hclosed : g.data.state = .Closed) : P := absurd (hstate.symm.trans hclosed) hne
  cases hm with
  | stay _ hans => exact .of_quiet hans (.inl rfl) rfl rfl id
  | broken id p _ _ hget hbad => exact absurd hbad (h.not_broken hget)
  | enter ha hopen =>
    subst ha
    exact ⟨.inl ⟨(append_nil _).symm, rfl⟩, rfl, rfl, id, fun _ _ => hopen, nofun, nofun, nofun⟩
  | enqueue event _ hsilent hrec henq hroom =>
    refine .of_silent hsilent (.inl ?_) ?_ rfl id
    · rw [henq]
    · rw [hrec]
      rfl
  | record id n p events _ hget hsilent hrec henq hroom =>
    refine .of_silent hsilent (.inl ?_) ?_ rfl fun h => h
    · rw [henq]
    · rw [hrec]
  | release _ _ _ _ hans | give_up _ _ _ _ hans =>
    exact .of_quiet hans (.inl rfl) rfl rfl fun h => h
  | start_waiting boundary next_delivery next_parse ha hopen =>
    subst ha
    exact .of_quiet ⟨trivial, rfl, rfl⟩ (.inl rfl) rfl rfl (hnot hopen nofun)
  | start_held txn ha hopen hcount =>
    subst ha
    exact ⟨.inl ⟨(append_nil _).symm, rfl⟩, rfl, rfl, hnot hopen nofun, nofun,
      fun _ _ => hcount, nofun, nofun⟩
  | hand id txn ha hstate hcount =>
    subst ha
    exact ⟨.inl ⟨(append_nil _).symm, rfl⟩, rfl, rfl, fun h => h, nofun, fun _ _ => hcount,
      nofun, nofun⟩
  | empty events henq hrec =>
    exact .of_quiet ⟨trivial, henq, hrec⟩ (.inr rfl) rfl rfl id
  | commit id txn events hget henq hrec hstate hcount =>
    refine ⟨.inr ⟨rfl, henq, .inl rfl⟩, ?_, rfl, hnot hstate nofun, nofun, nofun,
      fun _ _ => rfl, nofun⟩
    rw [hrec]
    rfl
  | rollback id d hget hstate hans =>
    exact .of_quiet hans (.inl rfl) rfl rfl (hnot hstate nofun)
  | drop_drain _ _ _ hans | close hans => exact .of_quiet hans (.inr rfl) rfl rfl fun _ => rfl
  | take ha hopen =>
    subst ha
    exact ⟨.inr ⟨rfl, rfl, .inr rfl⟩, rfl, rfl, id, nofun, nofun, nofun, nofun⟩
  | take_none ha =>
    subst ha
    exact ⟨.inl ⟨(append_nil _).symm, rfl⟩, rfl, rfl, id, nofun, nofun, nofun, nofun⟩

/-- What the gate returns at one action was in the queue, or came with that action. -/
theorem Moved.taken (h : Moved g a t ans) :
    (ans.events ++ t.data.pending_events).Sublist (g.data.pending_events ++ a.enqueued ans) := by
  rcases h.queue with ⟨hqueue, hevents⟩ | ⟨hqueue, henq, hevents | hevents⟩
  · rw [hqueue, hevents, nil_append]
  · rw [hqueue, hevents]
    exact nil_sublist _
  · rw [hqueue, hevents, henq]

/-- What the gate returns during a run was in the queue before it, or came with the run. The
offset grows by what the run records. -/
theorem run_moved (h : g.Good) (actions : List (Action α)) :
    List.Sublist
        (((run step g actions).2.map Answer.events).flatten ++
          (run step g actions).1.data.pending_events)
        (g.data.pending_events ++
          (List.zipWith Action.enqueued actions (run step g actions).2).flatten) ∧
      (run step g actions).1.data.record_output_byte_offset = g.data.record_output_byte_offset +
        (List.zipWith Action.recorded actions (run step g actions).2).sum ∧
      (run step g actions).1.data.pending_event_capacity = g.data.pending_event_capacity := by
  have hrun := @run_history _ _ _ step
    (fun (t : FilterProducerDrainGate α) is (os : List (Answer α)) =>
      t.Good ∧ is.length = os.length ∧
      List.Sublist ((os.map Answer.events).flatten ++ t.data.pending_events)
        (g.data.pending_events ++ (List.zipWith Action.enqueued is os).flatten) ∧
      t.data.record_output_byte_offset = g.data.record_output_byte_offset +
        (List.zipWith Action.recorded is os).sum ∧
      t.data.pending_event_capacity = g.data.pending_event_capacity) g
    ⟨h, rfl, by simp, rfl, rfl⟩ ?_ actions
  · exact hrun.2.2
  rintro t is os i ⟨hgood, hlen, hsub, hoffset, hcapacity⟩
  have hmoved := (t.step_moves i).moved hgood
  refine ⟨(t.step_moves i).good hgood, by simp [hlen], ?_, ?_, hmoved.capacity.trans hcapacity⟩
  · rw [map_append, flatten_append, zipWith_append hlen, flatten_append,
      ← append_assoc g.data.pending_events]
    refine List.Sublist.trans ?_ (hsub.append (List.Sublist.refl _))
    simpa using hmoved.taken
  · rw [hmoved.offset, hoffset, zipWith_append hlen]
    simp [Nat.add_assoc]

/-- The gate keeps its stale output, in the state `g` and at the action `a` behind it. -/
structure NeverLeaks (capacity : Nat) (g : FilterProducerDrainGate α) (a : Action α) : Prop where
  /-- The count is the number of permits that are out. -/
  counted : g.data.admitted_producer_count = g.permits.size
  /-- A drain is handed out, and held, only while no permit is out. -/
  handed_alone : ∀ drain, (g.step a).2 = .draining drain → g.data.admitted_producer_count = 0
  held_alone : ∀ txn, FilterDrain.held txn ∈ g.drains.values →
    g.data.admitted_producer_count = 0 ∧ ∀ permit, (g.step a).2 ≠ .admitted permit
  /-- Behind a committed drain the gate returns only what was queued behind it. -/
  no_stale_event : ∀ events, (g.step a).2 = .committed events → ∀ later,
    List.Sublist ((run step (g.step a).1 later).2.map Answer.events).flatten
      (List.zipWith Action.enqueued later (run step (g.step a).1 later).2).flatten
  /-- The queue grows by what `enqueued` names, or is emptied. -/
  queue : (g.step a).1.data.pending_events =
      g.data.pending_events ++ a.enqueued (g.step a).2 ∨
    ((g.step a).1.data.pending_events = [] ∧ a.enqueued (g.step a).2 = [])
  room : g.data.pending_events.length ≤ capacity
  offset_grows : g.data.record_output_byte_offset ≤ (g.step a).1.data.record_output_byte_offset
  no_broken_permit : ∀ e ∈ impossible_errors, (g.step a).2 ≠ .refused e
  closed : g.data.state = .Closed → (g.step a).1.data.state = .Closed

/-- A new gate is a fresh one, with room for an event. -/
theorem new.spec {pending_event_capacity : Nat} {reserves : Bool}
    (h : GateData.new pending_event_capacity reserves = .ok data) :
    0 < pending_event_capacity ∧ data = (fresh pending_event_capacity).data := by
  unfold GateData.new at h
  split at h
  · cases h
  cases reserves with
  | false => cases h
  | true =>
    cases h
    exact ⟨by omega, rfl⟩

/-- Over every interleaving of producers, drains, drops, takes and closes on a fresh gate, the
record offset is the sum of what was committed, and no action leaks stale output. -/
theorem stale_output_never_leaks (capacity : Nat) (actions : List (Action α)) :
    (run step (fresh capacity) actions).1.data.record_output_byte_offset =
        (List.zipWith Action.recorded actions (run step (fresh capacity) actions).2).sum ∧
      ∀ a, NeverLeaks capacity (run step (fresh capacity) actions).1 a := by
  have hfresh : (fresh capacity : FilterProducerDrainGate α).Good := fresh_good capacity
  have hmoved := run_moved hfresh actions
  have h := run_good hfresh actions
  refine ⟨by rw [hmoved.2.1]; exact Nat.zero_add _, fun a => ?_⟩
  have hcapacity := hmoved.2.2
  generalize (run step (fresh capacity) actions).1 = g at h hcapacity
  have hm := (g.step_moves a).moved h
  refine ⟨h.counted, hm.handed, ?_, ?_, ?_, ?_, ?_, hm.possible, hm.closed⟩
  · intro txn htxn
    refine ⟨h.held_alone txn htxn, fun permit hadmitted => ?_⟩
    exact Pool.not_mem_empty (h.open_no_drain (hm.admitted permit hadmitted)) htxn
  · -- the queue is empty behind the commit
    intro events hcommitted later
    have hlater := (run_moved ((g.step_moves a).good h) later).1
    rw [hm.committed events hcommitted] at hlater
    exact (sublist_append_left _ _).trans hlater
  · rcases hm.queue with ⟨hqueue, _⟩ | ⟨hqueue, henq, _⟩
    · exact .inl hqueue
    · exact .inr ⟨hqueue, henq⟩
  · have hroom := h.room
    rw [hcapacity] at hroom
    exact hroom
  · rw [hm.offset]
    exact Nat.le_add_right _ _

/-! ## Closed gates -/

/-- What closes the gate empties its queue. -/
theorem Moves.closes (hm : g.Moves a t ans) (h : g.Good) (hclosed : t.data.state = .Closed) :
    g.data.state = .Closed ∨ t.data.pending_events = [] := by
  cases hm with
  | broken id p _ _ hget hbad => exact absurd hbad (h.not_broken hget)
  | start_waiting | start_held | commit | rollback => cases hclosed
  | drop_drain | close => exact .inr rfl
  | _ => exact .inl hclosed

/-- No move of a gate that is not open lets a producer in. -/
theorem Moves.permits_le (hm : g.Moves a t ans) (h : g.Good) (hshut : g.data.state ≠ .Open) :
    t.permits.size ≤ g.permits.size := by
  cases hm with
  | broken id p _ _ hget hbad => exact absurd hbad (h.not_broken hget)
  | enter _ hopen => exact absurd hopen hshut
  | record id | release id => exact g.permits.size_remove_le id
  | _ => exact Nat.le_refl _

/-- In every interleaving, while the gate is not closed, each wake hands the gate to the drain that
waits exactly if the last permit is back, and no action lets in a producer before the drain. -/
theorem a_waiting_drain_is_served {capacity next_delivery next_parse : Nat}
    {boundary : FilterDrainBoundary} (actions : List (Action α)) :
    let g := (run step (fresh capacity) actions).1
    g.drains.get id = some (.waiting boundary next_delivery next_parse) →
      g.data.state ≠ .Closed →
      (g.step (.wake id)).2 = (if g.permits.size = 0 then .draining id else .waiting id) ∧
        ∀ a, (g.step a).1.permits.size ≤ g.permits.size := by
  intro g hwaits hlive
  have h : g.Good := run_good (fresh_good capacity) actions
  have hshut : g.data.state ≠ .Open := fun hopen =>
    Pool.not_mem_empty (h.open_no_drain hopen) (Pool.get_mem hwaits)
  have hdraining : g.data.state = .Draining := by
    cases hstate : g.data.state with
    | Draining => rfl
    | Open => exact absurd hstate hshut
    | Closed => exact absurd hstate hlive
  refine ⟨?_, fun a => (g.step_moves a).permits_le h hshut⟩
  simp only [step, hwaits, wake, hdraining, h.counted]
  split_ifs <;> trivial

theorem the_drain_gets_the_gate :
    ((run step (fresh 1 : FilterProducerDrainGate Char) [.begin_producer, .begin_drain .Flush,
      .release 0]).1.step (.wake 0)).2 = .draining 0 :=
  (a_waiting_drain_is_served _ rfl (by decide)).1

end tuner_hal2_demux.queue_runtime.FilterProducerDrainGate
