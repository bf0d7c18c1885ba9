-- The ledger of the resources of a tuner: every id has one entry, with the generation
-- under which it was reserved and its place in the life of a resource. A handle of an
-- older generation, or a call out of turn, changes nothing.
import TvStack.Machines
import TvStack.OrderedMaps
import TvStack.Words

open Machines Words

namespace tuner_hal2_resource_ledger

abbrev LedgerId := Int

abbrev LedgerGeneration := Nat

inductive LedgerState
  | Reserved
  | Live
  | Closing
  | CleanupFailed
  | Closed
  | Quarantined
  deriving DecidableEq

def LedgerState.is_terminal : LedgerState → Bool
  | .Closed | .Quarantined => true
  | _ => false

inductive CleanupStep
  | StopWorker
  | ClearQueue
  | UnregisterRuntime
  | ReleaseBackend
  | ReleaseLedger
  deriving DecidableEq

inductive LedgerOperation
  | Reserve
  | CommitLive
  | BeginClose
  | CommitClose
  | RollbackOpen
  | MarkCleanupFailed
  | Quarantine
  | AdvanceCleanupStep
  deriving DecidableEq

inductive LedgerErrorKind
  | AlreadyExists (state : LedgerState)
  | NotFound
  | GenerationMismatch (expected actual : LedgerGeneration)
  | InvalidTransition (source : LedgerState) (op : LedgerOperation)
  | TerminalState (state : LedgerState) (op : LedgerOperation)
  | GenerationOverflow
  deriving DecidableEq

structure LedgerError where
  id : LedgerId
  kind : LedgerErrorKind

structure LedgerEntry where
  id : LedgerId
  generation : LedgerGeneration
  state : LedgerState
  cleanup_step : Option CleanupStep

structure ResourceLedger where
  entries : OrdMap LedgerId LedgerEntry := {}
  next_generation : Nat := 0

namespace ResourceLedger

/-- The ledger after a call, and what the call returns. -/
abbrev Answer := ResourceLedger × Except LedgerError LedgerEntry

variable (l : ResourceLedger) (id : LedgerId) (generation : LedgerGeneration)

def entry : Option LedgerEntry := l.entries.get id

def reserve : Answer :=
  match l.entry id with
  | some existing => (l, .error ⟨id, .AlreadyExists existing.state⟩)
  | none =>
    match checked_add U64_MAX l.next_generation 1 with
    | none => (l, .error ⟨id, .GenerationOverflow⟩)
    | some next_generation =>
      let entry := { id, generation := next_generation, state := .Reserved, cleanup_step := none }
      ({ entries := l.entries.insert id entry, next_generation }, .ok entry)

def entry_checked (_op : LedgerOperation) : Except LedgerError LedgerEntry :=
  match l.entry id with
  | none => .error ⟨id, .NotFound⟩
  | some entry =>
    if entry.generation ≠ generation then
      .error ⟨id, .GenerationMismatch entry.generation generation⟩
    else .ok entry

def entry_mut_checked (op : LedgerOperation) : Except LedgerError LedgerEntry :=
  match l.entry id with
  | none => .error ⟨id, .NotFound⟩
  | some entry =>
    if entry.generation ≠ generation then
      .error ⟨id, .GenerationMismatch entry.generation generation⟩
    else if entry.state.is_terminal ∧ op ≠ .Quarantine then
      .error ⟨id, .TerminalState entry.state op⟩
    else .ok entry

/-- The refusal of a state from which the operation does not go. -/
def refused (state : LedgerState) (op : LedgerOperation) : LedgerError :=
  if state.is_terminal then ⟨id, .TerminalState state op⟩ else ⟨id, .InvalidTransition state op⟩

/-- A call that changes an entry in place: it goes from some states, and writes the next state and
cleanup step. -/
def transition (op : LedgerOperation) (goes : LedgerState → Bool)
    (change : LedgerEntry → LedgerEntry) : Answer :=
  match l.entry_mut_checked id generation op with
  | .error e => (l, .error e)
  | .ok entry =>
    if goes entry.state then
      ({ l with entries := l.entries.insert id (change entry) }, .ok (change entry))
    else (l, .error (refused id entry.state op))

def commit_live : Answer :=
  l.transition id generation .CommitLive (· = .Reserved)
    fun entry => { entry with state := .Live, cleanup_step := none }

def begin_close (first_step : CleanupStep) : Answer :=
  l.transition id generation .BeginClose (fun s => s = .Live ∨ s = .CleanupFailed)
    fun entry => { entry with state := .Closing, cleanup_step := some first_step }

def advance_cleanup_step (step : CleanupStep) : Answer :=
  l.transition id generation .AdvanceCleanupStep (fun s => s = .Closing ∨ s = .CleanupFailed)
    fun entry => { entry with cleanup_step := some step }

def mark_cleanup_failed (failed_step : CleanupStep) : Answer :=
  l.transition id generation .MarkCleanupFailed (fun s => s = .Closing ∨ s = .CleanupFailed)
    fun entry => { entry with state := .CleanupFailed, cleanup_step := some failed_step }

def commit_close : Answer :=
  l.transition id generation .CommitClose (fun s => s = .Closing ∨ s = .CleanupFailed)
    fun entry => { entry with state := .Closed, cleanup_step := none }

/-- The only call that takes an entry out. -/
def rollback_open : Answer :=
  match l.entry_checked id generation .RollbackOpen with
  | .error e => (l, .error e)
  | .ok entry =>
    if entry.state = .Reserved then ({ l with entries := l.entries.erase id }, .ok entry)
    else (l, .error (refused id entry.state .RollbackOpen))

/-- The only call that goes from every state that is not an end. -/
def quarantine (step : Option CleanupStep) : Answer :=
  match l.entry_mut_checked id generation .Quarantine with
  | .error e => (l, .error e)
  | .ok entry =>
    match entry.state with
    | .Closed | .Quarantined => (l, .error ⟨id, .TerminalState entry.state .Quarantine⟩)
    | _ =>
      let entry := { entry with state := .Quarantined, cleanup_step := step }
      ({ l with entries := l.entries.insert id entry }, .ok entry)

end ResourceLedger

inductive LedgerCall
  | reserve (id : LedgerId)
  | commit_live (id : LedgerId) (generation : LedgerGeneration)
  | begin_close (id : LedgerId) (generation : LedgerGeneration) (first_step : CleanupStep)
  | advance_cleanup_step (id : LedgerId) (generation : LedgerGeneration) (step : CleanupStep)
  | mark_cleanup_failed (id : LedgerId) (generation : LedgerGeneration) (failed_step : CleanupStep)
  | commit_close (id : LedgerId) (generation : LedgerGeneration)
  | rollback_open (id : LedgerId) (generation : LedgerGeneration)
  | quarantine (id : LedgerId) (generation : LedgerGeneration) (step : Option CleanupStep)

namespace LedgerCall

def id : LedgerCall → LedgerId
  | reserve id | commit_live id _ | begin_close id _ _ | advance_cleanup_step id _ _
  | mark_cleanup_failed id _ _ | commit_close id _ | rollback_open id _ | quarantine id _ _ => id

/-- The generation that the call carries. A reservation carries none. -/
def generation : LedgerCall → Option LedgerGeneration
  | reserve _ => none
  | commit_live _ g | begin_close _ g _ | advance_cleanup_step _ g _ | mark_cleanup_failed _ g _
  | commit_close _ g | rollback_open _ g | quarantine _ g _ => some g

def apply (l : ResourceLedger) : LedgerCall → ResourceLedger.Answer
  | reserve id => l.reserve id
  | commit_live id generation => l.commit_live id generation
  | begin_close id generation first_step => l.begin_close id generation first_step
  | advance_cleanup_step id generation step => l.advance_cleanup_step id generation step
  | mark_cleanup_failed id generation failed_step => l.mark_cleanup_failed id generation failed_step
  | commit_close id generation => l.commit_close id generation
  | rollback_open id generation => l.rollback_open id generation
  | quarantine id generation step => l.quarantine id generation step

end LedgerCall

/-! ## What one call can do -/

/-- The states in which a resource is being cleaned up, or is kept after a failed cleanup. -/
def LedgerState.is_cleaning : LedgerState → Bool
  | .Closing | .CleanupFailed | .Quarantined => true
  | _ => false

/-- A change of an entry in place: the handle stays, the old state is not an end, and a cleanup step
stands only with a state of cleanup. -/
structure LedgerEntry.Goes (entry next : LedgerEntry) : Prop where
  same_id : next.id = entry.id
  same_generation : next.generation = entry.generation
  not_terminal : entry.state.is_terminal = false
  step_fits : next.cleanup_step.isSome → next.state.is_cleaning

namespace LedgerCall

/-- What a call does to the ledger. -/
inductive Does (l : ResourceLedger) (call : LedgerCall) : ResourceLedger.Answer → Prop
  | refuse (e : LedgerError) : Does l call (l, .error e)
  | open_entry (entry : LedgerEntry) (absent : l.entry call.id = none)
      (reserves : call = .reserve call.id) (fresh : entry = ⟨call.id, l.next_generation + 1,
        .Reserved, none⟩) :
      Does l call (⟨l.entries.insert call.id entry, l.next_generation + 1⟩, .ok entry)
  | change (entry next : LedgerEntry) (found : l.entry call.id = some entry)
      (current : call.generation = some entry.generation) (goes : entry.Goes next) :
      Does l call ({ l with entries := l.entries.insert call.id next }, .ok next)
  | withdraw (entry : LedgerEntry) (found : l.entry call.id = some entry)
      (current : call.generation = some entry.generation) (reserved : entry.state = .Reserved) :
      Does l call ({ l with entries := l.entries.erase call.id }, .ok entry)

variable {l : ResourceLedger} {id : LedgerId} {generation : LedgerGeneration} {op : LedgerOperation}

theorem entry_mut_checked_ok {entry : LedgerEntry}
    (h : l.entry_mut_checked id generation op = .ok entry) :
    l.entry id = some entry ∧ entry.generation = generation := by
  unfold ResourceLedger.entry_mut_checked at h
  iterate 3
    split at h
    · cases h
  · cases h
    exact ⟨by assumption, not_not.mp (by assumption)⟩

theorem does_transition (call : LedgerCall) {goes : LedgerState → Bool}
    {change : LedgerEntry → LedgerEntry} (hid : call.id = id)
    (hgeneration : call.generation = some generation)
    (hgoes : ∀ entry : LedgerEntry, goes entry.state = true → entry.Goes (change entry)) :
    Does l call (l.transition id generation op goes change) := by
  subst hid
  unfold ResourceLedger.transition
  split
  · exact .refuse _
  rename_i entry hentry
  obtain ⟨hfound, rfl⟩ := entry_mut_checked_ok hentry
  split
  · exact .change entry _ hfound hgeneration (hgoes entry (by assumption))
  · exact .refuse _

theorem does_reserve : Does l (.reserve id) (l.reserve id) := by
  unfold ResourceLedger.reserve
  split
  · exact .refuse _
  rename_i habsent
  split
  · exact .refuse _
  rename_i next hnext
  unfold checked_add at hnext
  split at hnext
  · cases hnext
    exact .open_entry _ habsent rfl rfl
  · cases hnext

theorem does_rollback : Does l (.rollback_open id generation) (l.rollback_open id generation) := by
  unfold ResourceLedger.rollback_open ResourceLedger.entry_checked
  cases hfound : l.entry id with
  | none => exact .refuse _
  | some entry =>
    dsimp only
    by_cases hgeneration : entry.generation = generation
    · rw [if_neg (not_not_intro hgeneration)]
      dsimp only
      split
      · exact .withdraw entry hfound (congrArg some hgeneration.symm) (by assumption)
      · exact .refuse _
    · rw [if_pos hgeneration]
      exact .refuse _

theorem does_quarantine (step : Option CleanupStep) :
    Does l (.quarantine id generation step) (l.quarantine id generation step) := by
  unfold ResourceLedger.quarantine
  split
  · exact .refuse _
  rename_i entry hentry
  obtain ⟨hfound, rfl⟩ := entry_mut_checked_ok hentry
  have hchange (h : entry.state.is_terminal = false) :
      entry.Goes { entry with state := .Quarantined, cleanup_step := step } :=
    ⟨rfl, rfl, h, fun _ => rfl⟩
  cases hstate : entry.state with
  | Closed | Quarantined => exact .refuse _
  | Reserved | Live | Closing | CleanupFailed =>
    exact .change entry _ hfound rfl (hchange (by rw [hstate]; rfl))

/-- A call refuses and changes nothing, opens an entry, changes the entry of its id and generation,
or withdraws a reserved one. -/
theorem apply_does (l : ResourceLedger) (call : LedgerCall) : Does l call (call.apply l) := by
  cases call with
  | reserve id => exact does_reserve
  | rollback_open id generation => exact does_rollback
  | quarantine id generation step => exact does_quarantine step
  | commit_live id generation =>
    dsimp only [apply]
    refine does_transition _ rfl rfl ?_
    intro entry hstate
    refine ⟨rfl, rfl, ?_, nofun⟩
    rw [of_decide_eq_true hstate]
    rfl
  | begin_close id generation step | mark_cleanup_failed id generation step =>
    dsimp only [apply]
    refine does_transition _ rfl rfl ?_
    intro entry hstate
    refine ⟨rfl, rfl, ?_, fun _ => rfl⟩
    rcases of_decide_eq_true hstate with h | h <;> rw [h] <;> rfl
  | advance_cleanup_step id generation step =>
    dsimp only [apply]
    refine does_transition _ rfl rfl ?_
    intro entry hstate
    rcases of_decide_eq_true hstate with h | h <;>
      exact ⟨rfl, rfl, h ▸ rfl, fun _ => show entry.state.is_cleaning = true from h ▸ rfl⟩
  | commit_close id generation =>
    dsimp only [apply]
    refine does_transition _ rfl rfl ?_
    intro entry hstate
    refine ⟨rfl, rfl, ?_, nofun⟩
    rcases of_decide_eq_true hstate with h | h <;> rw [h] <;> rfl

end LedgerCall

/-! ## Runs -/

/-- The generation that a call hands out. -/
def handed_out (call : LedgerCall) (answer : Except LedgerError LedgerEntry) :
    Option LedgerGeneration :=
  match call, answer with
  | .reserve _, .ok entry => some entry.generation
  | _, _ => none

/-- The generations that a history of calls and answers handed out, oldest first. -/
def generations (history : List (LedgerCall × Except LedgerError LedgerEntry)) :
    List LedgerGeneration :=
  history.filterMap fun h => handed_out h.1 h.2

/-- Every cleanup step stands with a state of cleanup. -/
def ResourceLedger.StepsFit (l : ResourceLedger) : Prop :=
  ∀ id entry, l.entry id = some entry → entry.cleanup_step.isSome → entry.state.is_cleaning

namespace LedgerCall.Does

variable {l : ResourceLedger} {call : LedgerCall} {answer : ResourceLedger.Answer}
  {entry : LedgerEntry} {id : LedgerId}

section

variable (hdoes : Does l call answer)
include hdoes

theorem refused_unchanged {e : LedgerError} (h : answer.2 = .error e) : answer.1 = l := by
  cases hdoes with
  | refuse e => rfl
  | open_entry | change | withdraw => cases h

theorem stale_refused {generation : LedgerGeneration} (hcall : call.generation = some generation)
    (hstale : ∀ entry, l.entry call.id = some entry → entry.generation ≠ generation) :
    ∃ e, answer.2 = .error e := by
  cases hdoes with
  | refuse e => exact ⟨e, rfl⟩
  | open_entry entry absent reserves fresh =>
    rw [reserves] at hcall
    cases hcall
  | change entry _ found current _ | withdraw entry found current _ =>
    rw [hcall] at current
    exact absurd (Option.some.inj current).symm (hstale entry found)

theorem other_entry (h : id ≠ call.id) : answer.1.entry id = l.entry id := by
  cases hdoes with
  | refuse e => rfl
  | open_entry | change => exact (OrdMap.get_insert _ _ _ _).trans (if_neg h)
  | withdraw => exact (OrdMap.get_erase _ _ _).trans (if_neg h)

theorem terminal_kept (hentry : l.entry id = some entry) (hend : entry.state.is_terminal) :
    answer.1.entry id = some entry := by
  by_cases hid : id = call.id
  · subst hid
    cases hdoes with
    | refuse e => exact hentry
    | open_entry _ absent _ _ =>
      rw [hentry] at absent
      cases absent
    | change old next found current goes =>
      rw [hentry] at found
      cases found
      rw [goes.not_terminal] at hend
      cases hend
    | withdraw old found current reserved =>
      rw [hentry] at found
      cases found
      rw [reserved] at hend
      cases hend
  · rw [hdoes.other_entry hid]
    exact hentry

theorem steps_fit (h : l.StepsFit) : answer.1.StepsFit := by
  intro id entry hentry hstep
  by_cases hid : id = call.id
  · subst hid
    cases hdoes with
    | refuse e => exact h _ entry hentry hstep
    | open_entry fresh _ _ hfresh =>
      rw [ResourceLedger.entry, OrdMap.get_insert, if_pos rfl, hfresh] at hentry
      cases hentry
      cases hstep
    | change old next _ _ goes =>
      rw [ResourceLedger.entry, OrdMap.get_insert, if_pos rfl] at hentry
      cases hentry
      exact goes.step_fits hstep
    | withdraw =>
      rw [ResourceLedger.entry, OrdMap.get_erase, if_pos rfl] at hentry
      cases hentry
  · rw [hdoes.other_entry hid] at hentry
    exact h id entry hentry hstep

end

theorem hands_none (h : call.generation ≠ none) (answer : Except LedgerError LedgerEntry) :
    handed_out call answer = none := by
  cases call <;> first | rfl | exact absurd rfl h

theorem hands_next (hdoes : Does l call answer) :
    l.next_generation ≤ answer.1.next_generation ∧
      ∀ g, handed_out call answer.2 = some g →
        l.next_generation < g ∧ g ≤ answer.1.next_generation := by
  cases hdoes with
  | refuse e =>
    refine ⟨Nat.le_refl _, fun g hg => ?_⟩
    cases call <;> cases hg
  | open_entry entry absent reserves fresh =>
    refine ⟨Nat.le_succ _, fun g hg => ?_⟩
    rw [reserves, fresh] at hg
    cases hg
    exact ⟨Nat.lt_succ_self _, Nat.le_refl _⟩
  | change old _ _ current _ | withdraw old _ current _ =>
    refine ⟨Nat.le_refl _, fun g hg => ?_⟩
    rw [hands_none (current ▸ Option.some_ne_none _)] at hg
    cases hg

end LedgerCall.Does

theorem generations_rise (calls : List LedgerCall) (l : ResourceLedger) :
    (generations (calls.zip (run LedgerCall.apply l calls).2)).Pairwise (· < ·) ∧
      ∀ g ∈ generations (calls.zip (run LedgerCall.apply l calls).2), l.next_generation < g := by
  induction calls generalizing l with
  | nil => exact ⟨List.Pairwise.nil, fun g hg => absurd hg List.not_mem_nil⟩
  | cons call rest ih =>
    obtain ⟨hrest, habove⟩ := ih (call.apply l).1
    obtain ⟨hle, hnext⟩ := (call.apply_does l).hands_next
    have hlater : ∀ g ∈ generations (rest.zip (run LedgerCall.apply (call.apply l).1 rest).2),
        l.next_generation < g := fun g hg => Nat.lt_of_le_of_lt hle (habove g hg)
    simp only [run_cons, List.zip_cons_cons, generations, List.filterMap_cons]
    split
    · exact ⟨hrest, hlater⟩
    rename_i g hg
    obtain ⟨hlow, hhigh⟩ := hnext g hg
    refine ⟨List.pairwise_cons.mpr ⟨fun g' hg' => ?_, hrest⟩, fun g' hg' => ?_⟩
    · exact Nat.lt_of_le_of_lt hhigh (habove g' hg')
    · rcases List.mem_cons.mp hg' with rfl | hg'
      · exact hlow
      · exact hlater g' hg'

/-- After any calls: generations are handed out once and rise. A call with a generation that is not
the one of the entry is refused, and a refused call changes nothing. A call leaves the entries of
other ids alone. A closed entry stays what it is. A cleanup step stands only on an entry that is
closing, failed or in quarantine. -/
theorem ledger_lifecycle (calls : List LedgerCall) :
    let (l, answers) := run LedgerCall.apply {} calls
    (generations (calls.zip answers)).Pairwise (· < ·) ∧
    (∀ (call : LedgerCall) generation, call.generation = some generation →
      (∀ entry, l.entry call.id = some entry → entry.generation ≠ generation) →
      (∃ e, (call.apply l).2 = .error e) ∧ (call.apply l).1 = l) ∧
    (∀ (call : LedgerCall) e, (call.apply l).2 = .error e → (call.apply l).1 = l) ∧
    (∀ (call : LedgerCall) id, id ≠ call.id → (call.apply l).1.entry id = l.entry id) ∧
    (∀ id entry later, l.entry id = some entry → entry.state = .Closed →
      (run LedgerCall.apply l later).1.entry id = some entry) ∧
    ∀ id entry, l.entry id = some entry → entry.cleanup_step.isSome →
      entry.state = .Closing ∨ entry.state = .CleanupFailed ∨ entry.state = .Quarantined := by
  generalize hrun : run LedgerCall.apply {} calls = reached
  refine ⟨?_, fun call generation hcall hstale => ?_,
    fun call e he => (call.apply_does _).refused_unchanged he,
    fun call id hid => (call.apply_does _).other_entry hid, fun id entry later hentry hclosed => ?_,
    fun id entry hentry hstep => ?_⟩
  · rw [← hrun]
    exact (generations_rise calls {}).1
  · obtain ⟨e, he⟩ := (call.apply_does _).stale_refused hcall hstale
    exact ⟨⟨e, he⟩, (call.apply_does _).refused_unchanged he⟩
  · refine run_keeps (P := fun l : ResourceLedger => l.entry id = some entry)
      (fun l call h => ?_) _ later hentry
    exact (call.apply_does l).terminal_kept h (by rw [hclosed]; rfl)
  · have hfits : reached.1.StepsFit := by
      rw [← hrun]
      exact run_keeps (fun l call => (call.apply_does l).steps_fit) {}
        calls nofun
    have hcleaning := hfits id entry hentry hstep
    cases hstate : entry.state with
    | Closing => exact .inl rfl
    | CleanupFailed => exact .inr (.inl rfl)
    | Quarantined => exact .inr (.inr rfl)
    | Reserved | Live | Closed =>
      rw [hstate] at hcleaning
      cases hcleaning

end tuner_hal2_resource_ledger
