-- The epoch protocol of a DVR queue. Transactions hold tokens of the current
-- epoch. A drain closes the door, waits until no token is out, clears the queue
-- and opens the next epoch. Tokens and drains are guards: a guard that is
-- dropped unused closes the protocol. So a clear never overlaps a transaction.
import TvStack.Machines
import TvStack.Pools
import TvStack.Words

open Machines Words

namespace tuner_hal2_demux.queue_runtime

inductive QueueRuntimeErrorKind
  | InvalidCapacity
  | NativeCreateFailed
  | ExportTransient
  | DataPathFailure
  | StructuralDescriptor
  deriving DecidableEq

structure QueueRuntimeError where
  kind : QueueRuntimeErrorKind
  detail : String
  deriving DecidableEq

/-- What an operation of a queue gives. -/
abbrev QueueResult := Except QueueRuntimeError

def protocol_error (detail : String) : QueueRuntimeError := ⟨.StructuralDescriptor, detail⟩

inductive QueueEpochState
  | Open
  | Draining
  | Closed
  deriving DecidableEq

inductive QueueTransactionDirection
  | Read
  | Write
  deriving DecidableEq

/-- The state under the mutex, and the identity of the queue. -/
structure QueueEpochProtocol where
  state : QueueEpochState := .Open
  epoch : Nat := 0
  admitted_transaction_count : Nat := 0
  queue_identity : Option Nat

/-- A token that is not consumed yet, so that its `active` is set. -/
structure QueueEpochToken where
  queue_identity : Option Nat
  epoch : Nat
  direction : QueueTransactionDirection
  reserved_bytes : Nat

structure QueueEpochDrainTxn where
  epoch : Nat
  next_epoch : Nat

inductive DvrQueueDrainCommitError
  | QueueClear
  | QueueClearRollbackFailed
  | EpochCommit
  | EpochCommitRollbackFailed
  deriving DecidableEq

/-! ## The Rust functions -/

variable (p : QueueEpochProtocol)

def QueueEpochProtocol.fail_close_unconsumed_authority :
    QueueEpochProtocol := { p with state := .Closed }

/-- What a method that consumes its guard leaves. A guard that is not spent is dropped next. -/
structure Consumed where
  protocol : QueueEpochProtocol
  spent : Bool
  result : QueueResult Unit

namespace QueueEpochToken

def release (t : QueueEpochToken) (p : QueueEpochProtocol) :
    QueueResult (QueueEpochProtocol × QueueEpochState) :=
  if p.queue_identity ≠ t.queue_identity ∨ p.epoch ≠ t.epoch then
    .error (protocol_error "DVR queue transaction identity or epoch changed before release")
  else
    match checked_sub p.admitted_transaction_count 1 with
    | none => .error (protocol_error "DVR queue transaction count underflow")
    | some count => .ok ({ p with admitted_transaction_count := count }, p.state)

def commit (t : QueueEpochToken) (p : QueueEpochProtocol) : Consumed :=
  if t.reserved_bytes = 0 then
    ⟨p, false, .error (protocol_error "DVR queue transaction has an empty reservation")⟩
  else
    match t.release p with
    | .error e => ⟨p, false, .error e⟩
    | .ok (p, protocol_state) =>
      ⟨p, true, if protocol_state = .Closed then
        .error (protocol_error "DVR queue transaction was closed before commit") else .ok ()⟩

def abort (t : QueueEpochToken) (p : QueueEpochProtocol) : Consumed :=
  match t.release p with
  | .error e => ⟨p, false, .error e⟩
  | .ok (p, _) => ⟨p, true, .ok ()⟩

end QueueEpochToken

namespace QueueEpochDrainTxn

def rollback (d : QueueEpochDrainTxn) (p : QueueEpochProtocol) : Consumed :=
  if p.state ≠ .Draining ∨ p.epoch ≠ d.epoch then
    ⟨p, false, .error (protocol_error "DVR queue drain state changed before rollback")⟩
  else ⟨{ p with state := .Open }, true, .ok ()⟩

def abort (d : QueueEpochDrainTxn) (p : QueueEpochProtocol) : Consumed := d.rollback p

end QueueEpochDrainTxn

def DvrQueueDrainCommitError.after_abort (e : DvrQueueDrainCommitError)
    (abort : QueueResult Unit) : DvrQueueDrainCommitError :=
  match abort with
  | .ok _ => e
  | .error _ =>
    match e with
    | .QueueClear | .QueueClearRollbackFailed => .QueueClearRollbackFailed
    | .EpochCommit | .EpochCommitRollbackFailed => .EpochCommitRollbackFailed

def begin_dvr_transaction (direction : QueueTransactionDirection) (reserved_bytes : Nat) :
    QueueResult (QueueEpochProtocol × QueueEpochToken) :=
  if reserved_bytes = 0 then
    .error (protocol_error "DVR queue transaction reservation must be positive")
  else if p.state ≠ .Open then
    .error (protocol_error "DVR queue epoch is draining or closed")
  else
    match checked_add USIZE_MAX p.admitted_transaction_count 1 with
    | none => .error (protocol_error "DVR queue transaction count overflow")
    | some count =>
      .ok ({ p with admitted_transaction_count := count },
        { queue_identity := p.queue_identity, epoch := p.epoch, direction, reserved_bytes })

/-- The first lock hold of `begin_dvr_drain`, up to its wait: the next epoch. -/
def begin_dvr_drain : QueueResult (QueueEpochProtocol × Nat) :=
  if p.state ≠ .Open then .error (protocol_error "DVR queue epoch is not open")
  else
    match checked_add U64_MAX p.epoch 1 with
    | none => .error (protocol_error "DVR queue epoch exhausted")
    | some next_epoch => .ok ({ p with state := .Draining }, next_epoch)

def close_dvr_protocol : QueueEpochProtocol := { p with state := .Closed }

/-- The lock hold of `commit_dvr_drain_with_queue_clear_operation`. `clears` says whether the
clear of the queue succeeds. A failed commit aborts the drain in a lock hold of its own. -/
def commit_dvr_drain (d : QueueEpochDrainTxn) (clears : Bool) :
    Except DvrQueueDrainCommitError QueueEpochProtocol :=
  if p.state ≠ .Draining ∨ p.epoch ≠ d.epoch ∨ p.admitted_transaction_count ≠ 0 then
    .error .EpochCommit
  else if ¬ clears then .error .QueueClear
  else .ok { p with epoch := d.next_epoch, state := .Open }

/-! ## The threads -/

/-- A thread inside a drain. It waits for the transactions, holds the drain, or is about to abort
it behind a failed commit. -/
inductive Drain
  | waiting (next_epoch : Nat)
  | held (txn : QueueEpochDrainTxn)
  | aborting (txn : QueueEpochDrainTxn) (error : DvrQueueDrainCommitError)

/-- One queue with its protocol, and the guards that are out. -/
structure System where
  protocol : QueueEpochProtocol
  content : List UInt8 := []
  tokens : Pool QueueEpochToken := {}
  drains : Pool Drain := {}

/-- One lock hold, drop or transfer of data. Tokens and drains are named by their identity in
their pool. -/
inductive Action
  | begin_dvr_transaction (direction : QueueTransactionDirection) (reserved_bytes : Nat)
  | commit (token : Nat)
  | abort (token : Nat)
  | drop (token : Nat)
  | begin_dvr_drain
  | wake (drain : Nat)
  | commit_dvr_drain (drain : Nat) (clears : Bool)
  | abort_drain (drain : Nat)
  | drop_drain (drain : Nat)
  | close_dvr_protocol
  | transfer (content : List UInt8)

inductive Answer
  | absent
  | done
  | admitted (token : Nat)
  | waiting (drain : Nat)
  | draining (drain : Nat)
  | cleared (dropped_bytes : Nat)
  | refused (error : QueueRuntimeError)
  | drain_refused (error : DvrQueueDrainCommitError)
  deriving DecidableEq

/-- The answer of a result with no value. -/
def Answer.of : QueueResult Unit → Answer
  | .ok _ => .done
  | .error e => .refused e

namespace System

variable (s : System)

/-- A method that consumes the token `id`. -/
def consume_token (id : Nat) (c : Consumed) : System × Answer :=
  ({ s with protocol := c.protocol, tokens := if c.spent then s.tokens.remove id else s.tokens },
    .of c.result)

/-- The end of the wait of a drain, once no transaction is admitted. -/
def wake (id next_epoch : Nat) : System × Answer :=
  if s.protocol.state ≠ .Draining then
    ({ s with drains := s.drains.remove id },
      .refused (protocol_error "DVR queue epoch left draining state while waiting"))
  else if s.protocol.admitted_transaction_count ≠ 0 then (s, .waiting id)
  else
    ({ s with drains := s.drains.set id (.held ⟨s.protocol.epoch, next_epoch⟩) }, .draining id)

def start_drain : System × Answer :=
  match queue_runtime.begin_dvr_drain s.protocol with
  | .error e => (s, .refused e)
  | .ok (p, next_epoch) =>
    if p.admitted_transaction_count ≠ 0 then
      ({ s with protocol := p, drains := s.drains.add (.waiting next_epoch) },
        .waiting s.drains.next)
    else
      ({ s with protocol := p, drains := s.drains.add (.held ⟨p.epoch, next_epoch⟩) },
        .draining s.drains.next)

def commit_drain (id : Nat) (txn : QueueEpochDrainTxn) (clears : Bool) : System × Answer :=
  match commit_dvr_drain s.protocol txn clears with
  | .error e => ({ s with drains := s.drains.set id (.aborting txn e) }, .drain_refused e)
  | .ok p =>
    ({ s with protocol := p, content := [], drains := s.drains.remove id },
      .cleared s.content.length)

def consume_drain (id : Nat) (c : Consumed) : System :=
  { s with protocol := c.protocol, drains := if c.spent then s.drains.remove id else s.drains }

def step : Action → System × Answer
  | .begin_dvr_transaction direction reserved_bytes =>
    match begin_dvr_transaction s.protocol direction reserved_bytes with
    | .error e => (s, .refused e)
    | .ok (p, t) => ({ s with protocol := p, tokens := s.tokens.add t }, .admitted s.tokens.next)
  | .commit token =>
    match s.tokens.get token with
    | none => (s, .absent)
    | some t => s.consume_token token (t.commit s.protocol)
  | .abort token =>
    match s.tokens.get token with
    | none => (s, .absent)
    | some t => s.consume_token token (t.abort s.protocol)
  | .drop token =>
    match s.tokens.get token with
    | none => (s, .absent)
    | some _ =>
      ({ s with
        protocol := s.protocol.fail_close_unconsumed_authority,
        tokens := s.tokens.remove token }, .done)
  | .begin_dvr_drain => s.start_drain
  | .wake drain =>
    match s.drains.get drain with
    | some (.waiting next_epoch) => s.wake drain next_epoch
    | _ => (s, .absent)
  | .commit_dvr_drain drain clears =>
    match s.drains.get drain with
    | some (.held txn) => s.commit_drain drain txn clears
    | _ => (s, .absent)
  | .abort_drain drain =>
    match s.drains.get drain with
    | some (.held txn) =>
      (s.consume_drain drain (txn.abort s.protocol), .of (txn.abort s.protocol).result)
    | some (.aborting txn error) =>
      (s.consume_drain drain (txn.abort s.protocol),
        .drain_refused (error.after_abort (txn.abort s.protocol).result))
    | _ => (s, .absent)
  | .drop_drain drain =>
    match s.drains.get drain with
    | some (.held _) | some (.aborting _ _) =>
      ({ s with
        protocol := s.protocol.fail_close_unconsumed_authority,
        drains := s.drains.remove drain }, .done)
    | _ => (s, .absent)
  | .close_dvr_protocol => ({ s with protocol := close_dvr_protocol s.protocol }, .done)
  | .transfer content => ({ s with content }, .done)

end System

end tuner_hal2_demux.queue_runtime

namespace tuner_hal2_demux.queue_runtime

/-! ## Every interleaving -/

/-- A token of this queue and of the current epoch. -/
def QueueEpochToken.Fits (t : QueueEpochToken) (p : QueueEpochProtocol) : Prop :=
  t.queue_identity = p.queue_identity ∧ t.epoch = p.epoch ∧ 0 < t.reserved_bytes

/-- A drain of the current epoch. One that does not wait any more has no transaction beside it. -/
def Drain.Fits (p : QueueEpochProtocol) : Drain → Prop
  | .waiting next_epoch => next_epoch = p.epoch + 1
  | .held txn | .aborting txn _ =>
    txn.epoch = p.epoch ∧ txn.next_epoch = p.epoch + 1 ∧ p.admitted_transaction_count = 0

/-- `Fits` reads the epoch and the count only. -/
theorem Drain.Fits.mono {p q : QueueEpochProtocol} {d : Drain} (h : d.Fits p)
    (hepoch : q.epoch = p.epoch)
    (hcount : q.admitted_transaction_count ≤ p.admitted_transaction_count) : d.Fits q := by
  cases d with
  | waiting next_epoch => exact h.trans (by rw [hepoch])
  | held txn | aborting txn _ => exact ⟨by rw [hepoch]; exact h.1, by rw [hepoch]; exact h.2.1,
      Nat.le_zero.mp (h.2.2 ▸ hcount)⟩

/-- The errors that only a broken protocol would give. -/
def impossible : List QueueRuntimeError :=
  [protocol_error "DVR queue transaction identity or epoch changed before release",
    protocol_error "DVR queue transaction count underflow",
    protocol_error "DVR queue transaction has an empty reservation"]

/-- An answer that hands nothing out, clears nothing, and is no impossible error. -/
def Answer.Quiet : Answer → Prop
  | .admitted _ | .draining _ | .cleared _ => False
  | .refused e => e ∉ impossible
  | _ => True

instance : DecidablePred Answer.Quiet
  | .admitted _ | .draining _ | .cleared _ => isFalse id
  | .refused e => inferInstanceAs (Decidable (e ∉ impossible))
  | .absent | .done | .waiting _ | .drain_refused _ => isTrue trivial

namespace System

variable {s : System} {a : Action} {id : Nat} {t : QueueEpochToken} {ans : Answer}

/-! ## All that a step can do -/

/-- The step of one action on the guards and the protocol, with the checks that it made and its
answer. -/
inductive Moves (s : System) (a : Action) : System → Answer → Prop
  | stay (ans : Answer) (hans : ans.Quiet) : Moves s a s ans
  | broken (id : Nat) (t : QueueEpochToken) (ans : Answer) (hget : s.tokens.get id = some t)
      (hbad : ¬ t.Fits s.protocol ∨ s.protocol.admitted_transaction_count = 0) : Moves s a s ans
  | enter (t : QueueEpochToken) (hopen : s.protocol.state = .Open) (hfits : t.Fits s.protocol) :
      Moves s a { s with
        protocol := { s.protocol with
          admitted_transaction_count := s.protocol.admitted_transaction_count + 1 },
        tokens := s.tokens.add t } (.admitted s.tokens.next)
  | release (id : Nat) (t : QueueEpochToken) (ans : Answer) (hget : s.tokens.get id = some t)
      (hpos : 1 ≤ s.protocol.admitted_transaction_count) (hans : ans.Quiet) :
      Moves s a { s with
        protocol := { s.protocol with
          admitted_transaction_count := s.protocol.admitted_transaction_count - 1 },
        tokens := s.tokens.remove id } ans
  | drop_token (id : Nat) (t : QueueEpochToken) (hget : s.tokens.get id = some t) :
      Moves s a { s with
        protocol := { s.protocol with state := .Closed }, tokens := s.tokens.remove id } .done
  | start_waiting (hopen : s.protocol.state = .Open) :
      Moves s a { s with
        protocol := { s.protocol with state := .Draining },
        drains := s.drains.add (.waiting (s.protocol.epoch + 1)) } (.waiting s.drains.next)
  | start_held (hopen : s.protocol.state = .Open)
      (hcount : s.protocol.admitted_transaction_count = 0) :
      Moves s a { s with
        protocol := { s.protocol with state := .Draining },
        drains := s.drains.add (.held ⟨s.protocol.epoch, s.protocol.epoch + 1⟩) }
        (.draining s.drains.next)
  | hand (id next_epoch : Nat) (hget : s.drains.get id = some (.waiting next_epoch))
      (hstate : s.protocol.state = .Draining)
      (hcount : s.protocol.admitted_transaction_count = 0) :
      Moves s a { s with drains := s.drains.set id (.held ⟨s.protocol.epoch, next_epoch⟩) }
        (.draining id)
  | give_up (id next_epoch : Nat) (ans : Answer)
      (hget : s.drains.get id = some (.waiting next_epoch)) (hans : ans.Quiet) :
      Moves s a { s with drains := s.drains.remove id } ans
  | clear (id : Nat) (txn : QueueEpochDrainTxn) (hget : s.drains.get id = some (.held txn))
      (hstate : s.protocol.state = .Draining)
      (hcount : s.protocol.admitted_transaction_count = 0) :
      Moves s a { s with
        protocol := { s.protocol with epoch := txn.next_epoch, state := .Open },
        content := [], drains := s.drains.remove id } (.cleared s.content.length)
  | fail_commit (id : Nat) (txn : QueueEpochDrainTxn) (error : DvrQueueDrainCommitError)
      (hget : s.drains.get id = some (.held txn)) :
      Moves s a { s with drains := s.drains.set id (.aborting txn error) } (.drain_refused error)
  | rollback (id : Nat) (d : Drain) (ans : Answer) (hget : s.drains.get id = some d)
      (hstate : s.protocol.state = .Draining) (hans : ans.Quiet) :
      Moves s a { s with
        protocol := { s.protocol with state := .Open }, drains := s.drains.remove id } ans
  | drop_drain (id : Nat) (d : Drain) (hget : s.drains.get id = some d) :
      Moves s a { s with
        protocol := { s.protocol with state := .Closed }, drains := s.drains.remove id } .done
  | close : Moves s a { s with protocol := { s.protocol with state := .Closed } } .done
  | transfer (content : List UInt8) (ha : a = .transfer content) :
      Moves s a { s with content } .done

/-- A release takes one from the count. A release that fails has a broken token. -/
theorem release.spec (t : QueueEpochToken) (p : QueueEpochProtocol) :
    (1 ≤ p.admitted_transaction_count ∧ t.release p =
      .ok ({ p with admitted_transaction_count := p.admitted_transaction_count - 1 }, p.state)) ∨
    ((¬ t.Fits p ∨ p.admitted_transaction_count = 0) ∧ ∃ e, t.release p = .error e) := by
  unfold QueueEpochToken.release checked_sub
  split
  · rename_i hne
    refine .inr ⟨.inl fun hfits => ?_, _, rfl⟩
    exact hne.elim (· hfits.1.symm) (· hfits.2.1.symm)
  split_ifs with hpos
  · exact .inl ⟨hpos, rfl⟩
  · exact .inr ⟨.inr (by omega), _, rfl⟩

theorem commit_moves (hget : s.tokens.get id = some t) :
    s.Moves a (s.consume_token id (t.commit s.protocol)).1
      (s.consume_token id (t.commit s.protocol)).2 := by
  unfold QueueEpochToken.commit
  split_ifs
  · exact .broken id t _ hget (.inl fun hfits => absurd hfits.2.2 (by omega))
  rcases release.spec t s.protocol with ⟨hpos, hrel⟩ | ⟨hbad, e, hrel⟩
  · rw [hrel]
    refine .release id t _ hget hpos ?_
    dsimp only
    split
    · change Answer.Quiet (.refused _)
      decide
    · trivial
  · rw [hrel]
    exact .broken id t _ hget hbad

theorem abort_moves (hget : s.tokens.get id = some t) :
    s.Moves a (s.consume_token id (t.abort s.protocol)).1
      (s.consume_token id (t.abort s.protocol)).2 := by
  unfold QueueEpochToken.abort
  rcases release.spec t s.protocol with ⟨hpos, hrel⟩ | ⟨hbad, e, hrel⟩
  · rw [hrel]
    exact .release id t _ hget hpos trivial
  · rw [hrel]
    exact .broken id t _ hget hbad

/-- An abort of a drain opens the protocol again, or leaves the drain for its drop. `ans` reads
the result of the abort. -/
theorem abort_drain_moves {d : Drain} (txn : QueueEpochDrainTxn)
    (ans : QueueResult Unit → Answer) (hget : s.drains.get id = some d)
    (hok : (ans (.ok ())).Quiet)
    (herr : (ans (.error (protocol_error "DVR queue drain state changed before rollback"))).Quiet) :
    s.Moves a (s.consume_drain id (txn.abort s.protocol)) (ans (txn.abort s.protocol).result) := by
  unfold QueueEpochDrainTxn.abort QueueEpochDrainTxn.rollback
  split
  · exact .stay _ herr
  · rename_i hsame
    exact .rollback id d _ hget (not_not.mp fun hne => hsame (.inl hne)) hok

theorem start_drain_moves (s : System) (a : Action) :
    s.Moves a s.start_drain.1 s.start_drain.2 := by
  unfold start_drain queue_runtime.begin_dvr_drain checked_add
  by_cases hopen : s.protocol.state = .Open
  swap
  · simp only [hopen, ne_eq]
    exact .stay (.refused _) (by decide)
  by_cases hmax : s.protocol.epoch + 1 ≤ U64_MAX
  swap
  · simp only [hopen, hmax]
    exact .stay (.refused _) (by decide)
  simp only [hopen, hmax, ne_eq, not_true_eq_false, if_false, if_true]
  split_ifs with hcount
  · exact .start_held hopen hcount
  · exact .start_waiting hopen

theorem wake_moves {next_epoch : Nat} (hget : s.drains.get id = some (.waiting next_epoch)) :
    s.Moves a (s.wake id next_epoch).1 (s.wake id next_epoch).2 := by
  unfold wake
  split
  · exact .give_up id next_epoch (.refused _) hget (by decide)
  rename_i hstate
  split
  · exact .stay _ trivial
  · rename_i hcount
    exact .hand id next_epoch hget (not_not.mp hstate) (not_not.mp hcount)

theorem commit_drain_moves {txn : QueueEpochDrainTxn} (hget : s.drains.get id = some (.held txn))
    (clears : Bool) :
    s.Moves a (s.commit_drain id txn clears).1 (s.commit_drain id txn clears).2 := by
  unfold commit_drain commit_dvr_drain
  split_ifs with hcheck
  · exact .fail_commit id txn _ hget
  · simp only [not_or, not_not] at hcheck
    exact .clear id txn hget hcheck.1 hcheck.2.2
  · exact .fail_commit id txn _ hget

theorem begin_transaction_moves (s : System) (a : Action) (direction : QueueTransactionDirection)
    (reserved_bytes : Nat) :
    s.Moves a (s.step (.begin_dvr_transaction direction reserved_bytes)).1
      (s.step (.begin_dvr_transaction direction reserved_bytes)).2 := by
  simp only [step, begin_dvr_transaction, checked_add]
  split_ifs with hbytes hopen
  · exact .stay (.refused _) (by decide)
  · exact .stay (.refused _) (by decide)
  · exact .enter _ (not_not.mp hopen) ⟨rfl, rfl, Nat.pos_of_ne_zero hbytes⟩
  · exact .stay (.refused _) (by decide)

theorem step_moves (s : System) (a : Action) : s.Moves a (s.step a).1 (s.step a).2 := by
  cases a with
  | begin_dvr_transaction direction reserved_bytes =>
    exact begin_transaction_moves s _ direction reserved_bytes
  | commit token =>
    simp only [step]
    split
    · exact .stay _ trivial
    · rename_i t hget
      exact commit_moves hget
  | abort token =>
    simp only [step]
    split
    · exact .stay _ trivial
    · rename_i t hget
      exact abort_moves hget
  | drop token =>
    simp only [step]
    split
    · exact .stay _ trivial
    · rename_i t hget
      exact .drop_token token t hget
  | begin_dvr_drain => exact start_drain_moves s _
  | wake drain =>
    simp only [step]
    split
    · rename_i next_epoch hget
      exact wake_moves hget
    · exact .stay _ trivial
  | commit_dvr_drain drain clears =>
    simp only [step]
    split
    · rename_i txn hget
      exact commit_drain_moves hget clears
    · exact .stay _ trivial
  | abort_drain drain =>
    simp only [step]
    split
    · rename_i txn hget
      exact abort_drain_moves txn .of hget trivial (by decide)
    · rename_i txn error hget
      exact abort_drain_moves txn (fun r => .drain_refused (error.after_abort r)) hget
        trivial trivial
    · exact .stay _ trivial
  | drop_drain drain =>
    simp only [step]
    split
    · rename_i txn hget
      exact .drop_drain drain _ hget
    · rename_i txn error hget
      exact .drop_drain drain _ hget
    · exact .stay _ trivial
  | close_dvr_protocol => exact .close
  | transfer content => exact .transfer content rfl

/-! ## The invariant -/

structure Good (s : System) : Prop where
  tokens_fit : ∀ t ∈ s.tokens.values, t.Fits s.protocol
  tokens_counted : s.tokens.size ≤ s.protocol.admitted_transaction_count
  count_exact : s.protocol.state ≠ .Closed →
    s.protocol.admitted_transaction_count = s.tokens.size
  one_drain : s.drains.size ≤ 1
  open_no_drain : s.protocol.state = .Open → s.drains.size = 0
  drains_fit : ∀ d ∈ s.drains.values, d.Fits s.protocol

theorem Good.no_token (h : s.Good) (hcount : s.protocol.admitted_transaction_count = 0) :
    s.tokens.size = 0 :=
  Nat.le_zero.mp (hcount ▸ h.tokens_counted)

/-- The only drain ends, and the tokens fit the protocol behind it. -/
theorem Good.drained (h : s.Good) {d : Drain} (hget : s.drains.get id = some d)
    {protocol : QueueEpochProtocol} {content : List UInt8}
    (hfits : ∀ t ∈ s.tokens.values, t.Fits protocol)
    (hcounted : s.tokens.size ≤ protocol.admitted_transaction_count)
    (hexact : protocol.state ≠ .Closed → protocol.admitted_transaction_count = s.tokens.size) :
    Good { s with protocol, content, drains := s.drains.remove id } :=
  have hnone := Pool.remove_only h.one_drain hget
  ⟨hfits, hcounted, hexact, hnone.le.trans (Nat.zero_le _), fun _ => hnone,
    fun _ he => absurd he (Pool.not_mem_empty hnone)⟩

theorem Good.set (h : s.Good) {d : Drain} (hd : d.Fits s.protocol) :
    Good { s with drains := s.drains.set id d } :=
  { h with
    one_drain := (Pool.size_set ..).le.trans h.one_drain
    open_no_drain := fun hopen => (Pool.size_set ..).trans (h.open_no_drain hopen)
    drains_fit := Pool.all_set h.drains_fit hd }

/-- A token that is out is counted and fits. -/
theorem Good.not_broken (h : s.Good) (hget : s.tokens.get id = some t) :
    ¬ (¬ t.Fits s.protocol ∨ s.protocol.admitted_transaction_count = 0) := by
  rintro (hfits | hcount)
  · exact hfits (h.tokens_fit t (Pool.get_mem hget))
  · have hpos := Pool.size_pos hget
    rw [h.no_token hcount] at hpos
    cases hpos

theorem Good.start (h : s.Good) (hopen : s.protocol.state = .Open) {d : Drain}
    (hd : d.Fits { s.protocol with state := .Draining }) :
    Good { s with
      protocol := { s.protocol with state := .Draining }, drains := s.drains.add d } := by
  have hnone := h.open_no_drain hopen
  refine { h with
    count_exact := fun _ => h.count_exact (by rw [hopen]; exact nofun)
    one_drain := ?_
    open_no_drain := nofun
    drains_fit := Pool.all_add_empty hnone hd }
  exact Nat.le_of_eq (by rw [Pool.size_add, hnone])

theorem Moves.good {t : System} (hm : s.Moves a t ans) (h : s.Good) : t.Good := by
  cases hm with
  | stay | broken => exact h
  | enter tok hopen hfits =>
    have hexact := h.count_exact (by rw [hopen]; exact nofun)
    refine ⟨Pool.all_add h.tokens_fit hfits, ?_, ?_, h.one_drain, h.open_no_drain, ?_⟩
    · exact Nat.le_of_eq (by rw [Pool.size_add, ← hexact])
    · intro _
      rw [Pool.size_add, ← hexact]
    · intro d hd
      exact absurd hd (Pool.not_mem_empty (h.open_no_drain hopen))
  | release id tok _ hget hpos _ =>
    have hsize := Pool.size_remove hget
    have hcount := h.tokens_counted
    refine ⟨fun u hu => h.tokens_fit u (Pool.mem_remove hu), ?_, ?_, h.one_drain, h.open_no_drain,
      fun d hd => (h.drains_fit d hd).mono rfl (Nat.sub_le _ _)⟩
    · dsimp only
      omega
    · intro hstate
      have hexact := h.count_exact hstate
      dsimp only
      omega
  | drop_token id tok hget =>
    have hsize := Pool.size_remove hget
    have hcount := h.tokens_counted
    refine ⟨fun u hu => h.tokens_fit u (Pool.mem_remove hu), ?_, fun hne => absurd rfl hne,
      h.one_drain, nofun, fun d hd => (h.drains_fit d hd).mono rfl (Nat.le_refl _)⟩
    dsimp only
    omega
  | start_waiting hopen => exact h.start hopen rfl
  | start_held hopen hcount => exact h.start hopen ⟨rfl, rfl, hcount⟩
  | hand id next_epoch hget hstate hcount =>
    exact h.set ⟨rfl, h.drains_fit _ (Pool.get_mem hget), hcount⟩
  | give_up id next_epoch _ hget _ =>
    exact h.drained hget h.tokens_fit h.tokens_counted h.count_exact
  | clear id txn hget hstate hcount =>
    have hnone := h.no_token hcount
    exact h.drained hget (fun u hu => absurd hu (Pool.not_mem_empty hnone)) h.tokens_counted
      fun _ => hcount.trans hnone.symm
  | fail_commit id txn error hget =>
    exact h.set (d := .aborting txn error) (h.drains_fit (.held txn) (Pool.get_mem hget))
  | rollback id d _ hget hstate _ =>
    exact h.drained hget h.tokens_fit h.tokens_counted
      fun _ => h.count_exact (by rw [hstate]; exact nofun)
  | drop_drain id d hget =>
    exact h.drained hget h.tokens_fit h.tokens_counted fun hne => absurd rfl hne
  | close => exact ⟨h.tokens_fit, h.tokens_counted, fun hne => absurd rfl hne, h.one_drain, nofun,
      fun d hd => (h.drains_fit d hd).mono rfl (Nat.le_refl _)⟩
  | transfer content _ => exact { h with }

variable (queue_identity : Option Nat) (content : List UInt8)

/-- A fresh queue, with any bytes in it. -/
def fresh : System :=
  { protocol := { queue_identity }, content }

theorem run_good (actions : List Action) :
    (run step (fresh queue_identity content) actions).1.Good :=
  run_keeps (fun s a h => (s.step_moves a).good h) _ actions
    ⟨nofun, Nat.le_refl _, fun _ => rfl, Nat.zero_le _, fun _ => rfl, nofun⟩

/-! ## The law -/

/-- A clear does not overlap a transaction, in the state `s` and at the action `a` behind it. -/
structure NeverOverlaps (s : System) (a : Action) : Prop where
  /-- The epoch changes and the queue is cleared only while no token is out. -/
  alone : ((s.step a).1.protocol.epoch ≠ s.protocol.epoch ∨ ∃ n, (s.step a).2 = .cleared n) →
    s.tokens.size = 0
  /-- A held drain has no token beside it. -/
  held_alone : ∀ txn, Drain.held txn ∈ s.drains.values → s.tokens.size = 0
  /-- A token commits only in the epoch in which it was admitted. -/
  commit_in_epoch : ∀ token t, s.tokens.get token = some t → a = .commit token →
    (s.step a).2 = .done → s.protocol.epoch = t.epoch
  /-- At most one drain is out, and beside it no transaction is admitted. -/
  one_drain : s.drains.size ≤ 1
  no_admission : 0 < s.drains.size → ∀ token, (s.step a).2 ≠ .admitted token
  epoch_grows : s.protocol.epoch ≤ (s.step a).1.protocol.epoch
  /-- Only a drain that clears the queue changes the epoch and the content. -/
  no_clear_no_change : (∀ content, a ≠ .transfer content) → (∀ n, (s.step a).2 ≠ .cleared n) →
    (s.step a).1.protocol.epoch = s.protocol.epoch ∧ (s.step a).1.content = s.content
  clear_is_whole : ∀ n, (s.step a).2 = .cleared n → (s.step a).1.content = [] ∧
    n = s.content.length ∧ (s.step a).1.protocol.epoch = s.protocol.epoch + 1
  /-- Closed stays closed, and hands nothing out. -/
  closed : s.protocol.state = .Closed → (s.step a).1.protocol.state = .Closed ∧
    ∀ guard, (s.step a).2 ≠ .admitted guard ∧ (s.step a).2 ≠ .draining guard
  /-- The count is the number of tokens that are out, and no check of a token fails. -/
  count : s.protocol.state ≠ .Closed → s.protocol.admitted_transaction_count = s.tokens.size
  no_broken_token : ∀ e ∈ impossible, (s.step a).2 ≠ .refused e

/-- What a move does to the epoch and the content, and what its answer hands out. -/
structure Moved (s : System) (a : Action) (t : System) (ans : Answer) : Prop where
  kept : (∀ n, ans ≠ .cleared n) → t.protocol.epoch = s.protocol.epoch
  content : (∀ bytes, a ≠ .transfer bytes) → (∀ n, ans ≠ .cleared n) → t.content = s.content
  cleared : ∀ n, ans = .cleared n → s.tokens.size = 0 ∧ t.content = [] ∧
    n = s.content.length ∧ t.protocol.epoch = s.protocol.epoch + 1
  admitted : ∀ token, ans = .admitted token → s.protocol.state = .Open
  closed : s.protocol.state = .Closed → t.protocol.state = .Closed ∧
    ∀ guard, ans ≠ .admitted guard ∧ ans ≠ .draining guard
  possible : ∀ e ∈ impossible, ans ≠ .refused e

theorem Moved.of_quiet {t : System} (hans : ans.Quiet)
    (hepoch : t.protocol.epoch = s.protocol.epoch)
    (hcontent : (∀ bytes, a ≠ .transfer bytes) → t.content = s.content)
    (hclosed : s.protocol.state = .Closed → t.protocol.state = .Closed) : Moved s a t ans where
  kept := fun _ => hepoch
  content := fun ha _ => hcontent ha
  cleared := by
    rintro n rfl
    exact hans.elim
  admitted := by
    rintro n rfl
    exact hans.elim
  closed := by
    intro h
    refine ⟨hclosed h, fun guard => ⟨?_, ?_⟩⟩
    · rintro rfl
      exact hans
    · rintro rfl
      exact hans
  possible := by
    rintro e he rfl
    exact hans he

theorem Moves.moved {t : System} (hm : s.Moves a t ans) (h : s.Good) : Moved s a t ans := by
  have hnot {P : Prop} {state} (hstate : s.protocol.state = state) (hne : state ≠ .Closed)
      (hclosed : s.protocol.state = .Closed) : P := absurd (hstate.symm.trans hclosed) hne
  cases hm with
  | stay _ hans | release _ _ _ _ _ hans | give_up _ _ _ _ hans =>
    exact .of_quiet hans rfl (fun _ => rfl) fun h => h
  | broken id tok _ hget hbad => exact absurd hbad (h.not_broken hget)
  | enter tok hopen _ =>
    exact ⟨fun _ => rfl, fun _ _ => rfl, nofun, fun _ _ => hopen, hnot hopen nofun, nofun⟩
  | drop_token | drop_drain | close => exact .of_quiet trivial rfl (fun _ => rfl) fun _ => rfl
  | start_waiting hopen => exact .of_quiet trivial rfl (fun _ => rfl) (hnot hopen nofun)
  | start_held hstate _ | hand _ _ _ hstate _ =>
    exact ⟨fun _ => rfl, fun _ _ => rfl, nofun, nofun, hnot hstate nofun, nofun⟩
  | clear id txn hget hstate hcount =>
    refine ⟨fun hne => absurd rfl (hne _), fun _ hne => absurd rfl (hne _), fun n hn => ?_, nofun,
      hnot hstate nofun, nofun⟩
    cases hn
    exact ⟨h.no_token hcount, rfl, rfl, (h.drains_fit _ (Pool.get_mem hget)).2.1⟩
  | fail_commit => exact .of_quiet trivial rfl (fun _ => rfl) fun h => h
  | rollback id d _ hget hstate hans =>
    exact .of_quiet hans rfl (fun _ => rfl) (hnot hstate nofun)
  | transfer content ha =>
    exact .of_quiet trivial rfl (fun hne => absurd ha (hne content)) fun h => h

/-- A clear never overlaps a transaction: over every interleaving of transactions, drains, drops,
closes and transfers on a fresh queue, and at every action behind it. -/
theorem a_clear_never_overlaps_a_transaction (queue_identity : Option Nat) (content : List UInt8)
    (actions : List Action) (a : Action) :
    NeverOverlaps (run step (fresh queue_identity content) actions).1 a := by
  have h := run_good queue_identity content actions
  generalize (run step (fresh queue_identity content) actions).1 = s at h
  have hm := (s.step_moves a).moved h
  refine ⟨?_, ?_, ?_, h.one_drain, ?_, ?_, ?_, ?_, hm.closed, h.count_exact, hm.possible⟩
  · rintro (hne | ⟨n, hn⟩)
    · by_contra htok
      exact hne (hm.kept fun n hn => htok (hm.cleared n hn).1)
    · exact (hm.cleared n hn).1
  · intro txn htxn
    exact h.no_token (h.drains_fit _ htxn).2.2
  · intro token t hget _ _
    exact (h.tokens_fit t (Pool.get_mem hget)).2.1.symm
  · intro hpos token hadm
    rw [h.open_no_drain (hm.admitted token hadm)] at hpos
    cases hpos
  · by_cases hc : ∃ n, (s.step a).2 = .cleared n
    · obtain ⟨n, hn⟩ := hc
      rw [(hm.cleared n hn).2.2.2]
      exact Nat.le_succ _
    · exact Nat.le_of_eq (hm.kept fun n hn => hc ⟨n, hn⟩).symm
  · intro ha hc
    exact ⟨hm.kept hc, hm.content ha hc⟩
  · intro n hn
    exact (hm.cleared n hn).2

end System

end tuner_hal2_demux.queue_runtime
