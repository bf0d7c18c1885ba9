-- The life of an LNB: a state change or a close is prepared, the backend does it,
-- and its result is taken in. A result that says nothing of the hardware puts the
-- LNB into quarantine, and so does a drop without a close.
import TvStack.Machines
import TvStack.Words

open Machines Words

namespace tuner_hal2_lnb

inductive LnbFailureKind
  | InvalidState
  | BackendApplyFailed
  | DiseqcInvalidMessage
  | DiseqcUnsupported
  | GenerationOverflow
  | DropWithoutClose
  deriving DecidableEq

inductive LnbFailureStep
  | ValidateState
  | MarkClosing
  | BuildSafeState
  | AdvanceGeneration
  | ApplyBackend
  | CommitRegistry
  | ClearRuntimeCallbackState
  | SendDiseqc
  | CommitClosed
  | DropLeakRecord
  deriving DecidableEq

structure LnbFailureRecord where
  lnb_id : Int
  kind : LnbFailureKind
  step : LnbFailureStep

/-- What an operation of the LNB gives. -/
abbrev LnbResult := Except LnbFailureRecord

inductive LnbRuntimeState
  | Open
  | Applying
  | Closing
  | Failed
  | Closed
  | Quarantined
  deriving DecidableEq

inductive LnbBackendApplyOutcome
  | Applied
  | Rejected (kind : LnbFailureKind)
  | Indeterminate (kind : LnbFailureKind)
  deriving DecidableEq

inductive LnbVoltage
  | None
  | Voltage11V
  | Voltage15V
  deriving DecidableEq

inductive LnbTone
  | Off
  | On
  deriving DecidableEq

structure LnbElectricalState where
  voltage : LnbVoltage
  tone : LnbTone
  satellite_position : Option Int

def LnbElectricalState.safe : LnbElectricalState :=
  { voltage := .None, tone := .Off, satellite_position := none }

structure LnbRuntime where
  lnb_id : Int
  state : LnbRuntimeState
  (registry_state backend_committed_state : LnbElectricalState)
  callback_registered : Bool
  generation : Nat
  last_failure : Option LnbFailureRecord
  drop_leak_recorded : Bool

/-! ## The Rust functions -/

namespace LnbRuntime

def new (lnb_id : Int) : LnbRuntime where
  lnb_id
  state := .Open
  registry_state := .safe
  backend_committed_state := .safe
  callback_registered := false
  generation := 0
  last_failure := none
  drop_leak_recorded := false

variable (r : LnbRuntime)

def set_callback_registered (registered : Bool) : LnbRuntime :=
  match r.state with
  | .Open | .Applying => { r with callback_registered := registered }
  | _ => r

def reopen_after_public_open : LnbRuntime × LnbResult Unit :=
  match r.state with
  | .Open => (r, .ok ())
  | .Closed => ({ r with state := .Open, callback_registered := false }, .ok ())
  | _ => (r, .error { lnb_id := r.lnb_id, kind := .InvalidState, step := .ValidateState })

def checked_next_generation : Option Nat := checked_add U64_MAX r.generation 1

/-- The failures that are kept, each with the state that it leads to. -/
def fail (state : LnbRuntimeState) (kind : LnbFailureKind) (step : LnbFailureStep) :
    LnbRuntime × LnbFailureRecord :=
  let record : LnbFailureRecord := { lnb_id := r.lnb_id, kind, step }
  ({ r with state, last_failure := some record }, record)

def abort_rejected_apply (r : LnbRuntime) := r.fail .Open

def record_failure (r : LnbRuntime) := r.fail .Failed

def quarantine (r : LnbRuntime) := r.fail .Quarantined

def quarantine_generation_overflow : LnbRuntime × LnbFailureRecord :=
  r.quarantine .GenerationOverflow .AdvanceGeneration

def quarantine_indeterminate_backend (r : LnbRuntime) := r.quarantine

variable (state : LnbElectricalState)

def commit_successful_apply (generation : Nat) : LnbRuntime :=
  { r with
    backend_committed_state := state
    registry_state := state
    generation
    state := .Open }

def begin_apply : LnbRuntime × LnbResult Unit :=
  match r.state with
  | .Open => ({ r with state := .Applying }, .ok ())
  | _ => (r.record_failure .InvalidState .ValidateState).map id .error

def begin_close : LnbRuntime × LnbResult Unit :=
  match r.state with
  | .Open | .Failed => ({ r with state := .Closing }, .ok ())
  | .Closed => (r, .ok ())
  | _ => (r.record_failure .InvalidState .MarkClosing).map id .error

def commit_successful_close : LnbRuntime :=
  { r with
    backend_committed_state := state
    registry_state := state
    state := .Closed
    callback_registered := false }

def record_unclosed_drop : LnbRuntime × LnbFailureRecord :=
  { r with drop_leak_recorded := true, callback_registered := false }.quarantine
    .DropWithoutClose .DropLeakRecord

end LnbRuntime

structure PreparedLnbStateApply where
  lnb_id : Int
  expected_generation : Nat
  next_generation : Nat
  target_state : LnbElectricalState

structure PreparedLnbClose where
  lnb_id : Int
  expected_generation : Nat
  already_closed : Bool

variable (runtime : LnbRuntime) (target_state : LnbElectricalState)

def begin_with_generation (next_generation : Nat) : LnbRuntime × LnbResult PreparedLnbStateApply :=
  match runtime.begin_apply with
  | (runtime, .error record) => (runtime, .error record)
  | (runtime, .ok ()) =>
    if next_generation ≤ runtime.generation then
      runtime.quarantine_generation_overflow.map id .error
    else
      (runtime, .ok { lnb_id := runtime.lnb_id, expected_generation := runtime.generation
                      next_generation, target_state })

def prepare_lnb_state_apply : LnbRuntime × LnbResult PreparedLnbStateApply :=
  match runtime.checked_next_generation with
  | none => runtime.quarantine_generation_overflow.map id .error
  | some next_generation => begin_with_generation runtime target_state next_generation

def finish_lnb_state_apply (prepared : PreparedLnbStateApply)
    (backend_result : LnbBackendApplyOutcome) :
    LnbRuntime × LnbResult LnbElectricalState :=
  if runtime.lnb_id ≠ prepared.lnb_id ∨ runtime.generation ≠ prepared.expected_generation ∨
      runtime.state ≠ .Applying then
    (runtime.record_failure .InvalidState .ValidateState).map id .error
  else
    match backend_result with
    | .Applied =>
      (runtime.commit_successful_apply prepared.target_state prepared.next_generation,
        .ok prepared.target_state)
    | .Rejected kind => (runtime.abort_rejected_apply kind .ApplyBackend).map id .error
    | .Indeterminate kind =>
      (runtime.quarantine_indeterminate_backend kind .ApplyBackend).map id .error

def prepare_lnb_close : LnbRuntime × LnbResult PreparedLnbClose :=
  match runtime.begin_close with
  | (runtime, .error record) => (runtime, .error record)
  | (runtime, .ok ()) =>
    (runtime, .ok { lnb_id := runtime.lnb_id, expected_generation := runtime.generation
                    already_closed := runtime.state = .Closed })

def finish_lnb_close (prepared : PreparedLnbClose) (backend_result : LnbBackendApplyOutcome) :
    LnbRuntime × LnbResult Unit :=
  if runtime.lnb_id ≠ prepared.lnb_id ∨ runtime.generation ≠ prepared.expected_generation ∨
      (prepared.already_closed ∧ runtime.state ≠ .Closed) ∨
      (¬ prepared.already_closed ∧ runtime.state ≠ .Closing) then
    (runtime.record_failure .InvalidState .ValidateState).map id .error
  else if prepared.already_closed then (runtime, .ok ())
  else
    match backend_result with
    | .Applied => (runtime.commit_successful_close .safe, .ok ())
    | .Rejected kind => (runtime.record_failure kind .ApplyBackend).map id .error
    | .Indeterminate kind =>
      (runtime.quarantine_indeterminate_backend kind .ApplyBackend).map id .error

/-! ## The calls -/

/-- The calls that move an LNB through its life, with any prepared value and any result. -/
inductive LnbCall
  | PrepareStateApply (target : LnbElectricalState)
  | FinishStateApply (prepared : PreparedLnbStateApply) (outcome : LnbBackendApplyOutcome)
  | PrepareClose
  | FinishClose (prepared : PreparedLnbClose) (outcome : LnbBackendApplyOutcome)
  | Reopen
  | RecordUnclosedDrop

/-- The failure of a call, if it has one. -/
def failure {α : Type} : LnbResult α → Option LnbFailureRecord
  | .ok _ => none
  | .error record => some record

def LnbRuntime.call (r : LnbRuntime) : LnbCall → LnbRuntime × Option LnbFailureRecord
  | .PrepareStateApply target => (prepare_lnb_state_apply r target).map id failure
  | .FinishStateApply prepared outcome =>
    (finish_lnb_state_apply r prepared outcome).map id failure
  | .PrepareClose => (prepare_lnb_close r).map id failure
  | .FinishClose prepared outcome => (finish_lnb_close r prepared outcome).map id failure
  | .Reopen => r.reopen_after_public_open.map id failure
  | .RecordUnclosedDrop => r.record_unclosed_drop.map id some

/-- An LNB behind calls. -/
def lnb_after (r : LnbRuntime) (calls : List LnbCall) : LnbRuntime :=
  (run LnbRuntime.call r calls).1

/-! ## Quarantine -/

/-- Neither open, nor closed, nor on the way to either. -/
def LnbRuntimeState.Out : LnbRuntimeState → Prop
  | .Failed | .Quarantined => True
  | _ => False

variable {r : LnbRuntime}

theorem LnbRuntimeState.Out.eq {state : LnbRuntimeState} (h : state.Out) :
    state = .Failed ∨ state = .Quarantined := by
  cases state with
  | Failed => exact .inl rfl
  | Quarantined => exact .inr rfl
  | _ => exact h.elim

section

variable (h : r.state.Out)
include h

theorem begin_apply_out :
    r.begin_apply = (r.record_failure .InvalidState .ValidateState).map id .error := by
  unfold LnbRuntime.begin_apply
  rcases h.eq with hstate | hstate <;> rw [hstate]

/-- A state change that is prepared fails, one way or the other. -/
theorem prepare_lnb_state_apply_out (target : LnbElectricalState) :
    (prepare_lnb_state_apply r target).1.state.Out := by
  unfold prepare_lnb_state_apply
  split
  · trivial
  · rw [begin_with_generation, begin_apply_out h]
    trivial

theorem finish_lnb_state_apply_out (prepared : PreparedLnbStateApply)
    (outcome : LnbBackendApplyOutcome) :
    (finish_lnb_state_apply r prepared outcome).1.state.Out := by
  have hstate : r.state ≠ .Applying := by
    rcases h.eq with hstate | hstate <;> rw [hstate] <;> nofun
  unfold finish_lnb_state_apply
  rw [if_pos (.inr (.inr hstate))]
  trivial

theorem prepare_lnb_close_out : (prepare_lnb_close r).1.state.Out ↔ r.state ≠ .Failed := by
  unfold prepare_lnb_close LnbRuntime.begin_close
  rcases h.eq with hstate | hstate <;> rw [hstate]
  · exact ⟨False.elim, fun hne => absurd rfl hne⟩
  · exact ⟨fun _ => nofun, fun _ => trivial⟩

theorem finish_lnb_close_out (prepared : PreparedLnbClose) (outcome : LnbBackendApplyOutcome) :
    (finish_lnb_close r prepared outcome).1.state.Out := by
  have hclosed : r.state ≠ .Closed := by
    rcases h.eq with hstate | hstate <;> rw [hstate] <;> nofun
  have hclosing : r.state ≠ .Closing := by
    rcases h.eq with hstate | hstate <;> rw [hstate] <;> nofun
  unfold finish_lnb_close
  rw [if_pos]
  · trivial
  · by_cases halready : prepared.already_closed = true
    · exact .inr (.inr (.inl ⟨halready, hclosed⟩))
    · exact .inr (.inr (.inr ⟨halready, hclosing⟩))

theorem reopen_out : r.reopen_after_public_open.1 = r := by
  unfold LnbRuntime.reopen_after_public_open
  rcases h.eq with hstate | hstate <;> rw [hstate]

/-- There is one way back: a close that is prepared after a failure. -/
theorem call_out (call : LnbCall) :
    (r.call call).1.state.Out ↔ ¬ (r.state = .Failed ∧ call = .PrepareClose) := by
  cases call with
  | PrepareStateApply target =>
    exact ⟨fun _ => nofun, fun _ => prepare_lnb_state_apply_out h target⟩
  | FinishStateApply prepared outcome =>
    exact ⟨fun _ => nofun, fun _ => finish_lnb_state_apply_out h prepared outcome⟩
  | PrepareClose =>
    refine (prepare_lnb_close_out h).trans ⟨fun hne hand => hne hand.1, fun hnot heq => ?_⟩
    exact hnot ⟨heq, rfl⟩
  | FinishClose prepared outcome =>
    exact ⟨fun _ => nofun, fun _ => finish_lnb_close_out h prepared outcome⟩
  | Reopen =>
    refine ⟨fun _ => nofun, fun _ => ?_⟩
    change r.reopen_after_public_open.1.state.Out
    rw [reopen_out h]
    exact h
  | RecordUnclosedDrop => exact ⟨fun _ => nofun, fun _ => trivial⟩

end

theorem lnb_after_append (r : LnbRuntime) (calls later : List LnbCall) :
    lnb_after r (calls ++ later) = lnb_after (lnb_after r calls) later := by
  simp only [lnb_after, run_append]

/-- A run stays out exactly if none of its steps is the way back. -/
theorem run_out (h : r.state.Out) (calls : List LnbCall) :
    (∀ before, before <+: calls → (lnb_after r before).state.Out) ↔
      ∀ before call rest, calls = before ++ call :: rest →
        ¬ ((lnb_after r before).state = .Failed ∧ call = .PrepareClose) := by
  constructor
  · rintro hout before call rest rfl
    have hbefore := hout before (List.prefix_append _ _)
    have hnext := hout (before ++ [call]) ⟨rest, by simp⟩
    rw [lnb_after_append] at hnext
    exact (call_out hbefore call).mp hnext
  · intro hsteps before
    induction before using List.reverseRecOn with
    | nil => exact fun _ => h
    | append_singleton before call ih =>
      rintro ⟨rest, hrest⟩
      rw [List.append_assoc] at hrest
      have hbefore := ih ⟨_, hrest⟩
      rw [lnb_after_append]
      exact (call_out hbefore call).mpr (hsteps before call rest hrest.symm)

/-- Once quarantined, an LNB never again is open or closed or on the way there, exactly as long as
no close is prepared while it is Failed. Every call that a quarantined LNB refuses puts it there. -/
theorem quarantine_ends_by_a_close_alone (r : LnbRuntime) (h : r.state = .Quarantined)
    (calls : List LnbCall) :
    (∀ before, before <+: calls →
      (lnb_after r before).state ∉ [.Open, .Applying, .Closing, .Closed]) ↔
    ∀ before call rest, calls = before ++ call :: rest →
      ¬ ((lnb_after r before).state = .Failed ∧ call = .PrepareClose) := by
  have hmem (state : LnbRuntimeState) :
      state ∉ [.Open, .Applying, .Closing, .Closed] ↔ state.Out := by
    cases state <;> simp [LnbRuntimeState.Out]
  have hout : r.state.Out := by
    rw [h]
    trivial
  simp only [hmem]
  exact run_out hout calls

namespace UnclosedDrop

def dropped : LnbRuntime := lnb_after (.new 7) [.RecordUnclosedDrop]

/-- A close that is refused at once, and what comes behind it. -/
theorem the_reopened_lnb_keeps_quiet :
    dropped.state = .Quarantined ∧ (lnb_after dropped [.PrepareClose]).state = .Failed ∧
      ∀ before, before <+: [.PrepareClose, .PrepareStateApply .safe, .Reopen] →
        (lnb_after dropped before).state ∉ [.Open, .Applying, .Closing, .Closed] := by
  refine ⟨rfl, by decide, (quarantine_ends_by_a_close_alone dropped rfl _).mpr ?_⟩
  rintro before call rest heq ⟨hfailed, rfl⟩
  match before, heq with
  | [], _ => cases hfailed
  | [_], heq | [_, _], heq => cases heq
  | _ :: _ :: _ :: before, heq => simp at heq

/-- A state change that is refused, and the close behind it, bring the LNB back to life. -/
theorem the_closed_lnb_is_open_again :
    dropped.state = .Quarantined ∧
      (lnb_after dropped [.PrepareStateApply .safe, .PrepareClose,
        .FinishClose { lnb_id := 7, expected_generation := 0, already_closed := false } .Applied,
        .Reopen]).state = .Open := by
  decide

end UnclosedDrop

end tuner_hal2_lnb
