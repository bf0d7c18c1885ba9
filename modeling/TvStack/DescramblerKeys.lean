-- The table of descrambler keys. A publication of a token gets a slot id of its own,
-- sessions take and give back references to it, and a refresh request that was made
-- for one publication never reads the key of another.
import TvStack.DescramblerPackets
import TvStack.Machines
import TvStack.Maps
import TvStack.OrderedMaps

open Words Machines List

namespace tuner_hal2_descrambler

def DESCRAMBLER_TOKEN_MAX_BYTES : Nat := 16

structure DescramblerKeyToken where
  as_bytes : List UInt8
  not_empty : as_bytes ≠ []
  short : as_bytes.length ≤ DESCRAMBLER_TOKEN_MAX_BYTES
  deriving DecidableEq

inductive CasKeyResolveError
  | InvalidToken
  | UnknownToken
  | Unavailable
  | InvalidKeyMaterial
  deriving DecidableEq

end tuner_hal2_descrambler

namespace tuner_hal2_service_runtime

open tuner_hal2_descrambler

abbrev DescramblerKeySlotId := Nat

inductive DescramblerKeyLookupError
  | UnknownToken
  | ExpiredToken
  deriving DecidableEq

inductive DescramblerKeyPublishError
  | SlotIdExhausted
  deriving DecidableEq

structure DescramblerKeyRefreshRequest where
  token : DescramblerKeyToken
  slot : DescramblerKeySlotId

structure DescramblerPacketKeys where
  slots : OrdMap DescramblerKeySlotId DescramblerKeySlot := {}

def DescramblerPacketKeys.key_slot (keys : DescramblerPacketKeys) (slot : DescramblerKeySlotId) :
    Option DescramblerKeySlot :=
  keys.slots.get slot

/-- What the table keeps for a token. The reference is a handle into the CAS, of any type `ρ`. -/
structure DescramblerKeySlotState (ρ : Type) where
  reference : ρ
  slot : DescramblerKeySlotId
  refcount : Nat
  expired : Bool

structure DescramblerKeyTable (ρ : Type) where
  slots : FinMap DescramblerKeyToken (DescramblerKeySlotState ρ) := .empty
  next_slot : Nat := 1

namespace DescramblerKeyTable

variable {ρ : Type}

section Functions

variable (t : DescramblerKeyTable ρ) (token : DescramblerKeyToken)

/-- A token that is published already keeps its slot and its reference. -/
def publish (reference : ρ) :
    DescramblerKeyTable ρ × Except DescramblerKeyPublishError DescramblerKeySlotId :=
  match t.slots.get token with
  | some state =>
    ({ t with slots := t.slots.insert token { state with expired := false } }, .ok state.slot)
  | none =>
    match checked_add U64_MAX t.next_slot 1 with
    | none => (t, .error .SlotIdExhausted)
    | some next_slot =>
      ({ next_slot, slots := t.slots.insert token ⟨reference, t.next_slot, 0, false⟩ },
        .ok t.next_slot)

def begin_refresh (slot : DescramblerKeySlotId) : Option DescramblerKeyRefreshRequest :=
  match t.slots.get token with
  | none => none
  | some state =>
    if state.slot ≠ slot ∨ state.refcount = 0 ∨ state.expired then none else some ⟨token, slot⟩

def is_live_request (request : DescramblerKeyRefreshRequest) : Bool :=
  match t.slots.get request.token with
  | none => false
  | some state => state.slot = request.slot ∧ 0 < state.refcount ∧ ¬ state.expired

/-- The keys after one more request, which finds the CAS answering `snapshot`. -/
def snapshot_request (snapshot : ρ → Except CasKeyResolveError DescramblerKeySlot)
    (keys : DescramblerPacketKeys) (request : DescramblerKeyRefreshRequest) :
    DescramblerPacketKeys :=
  if t.is_live_request request then
    match t.slots.get request.token with
    | none => keys
    | some state =>
      match snapshot state.reference with
      | .ok key => { keys with slots := keys.slots.insert request.slot key }
      | .error _ => keys
  else keys

/-- The CAS may change between two requests: `snapshot i` is what it answers to the `i`-th. -/
def snapshot_packet_keys (snapshot : Nat → ρ → Except CasKeyResolveError DescramblerKeySlot)
    (requests : List DescramblerKeyRefreshRequest) : DescramblerPacketKeys :=
  requests.zipIdx.foldl (fun keys x => t.snapshot_request (snapshot x.2) keys x.1) {}

def discard_if_unreferenced (slot : DescramblerKeySlotId) : DescramblerKeyTable ρ :=
  if (t.slots.get token).any fun state => state.slot = slot ∧ state.refcount = 0 then
    { t with slots := t.slots.erase token }
  else t

def acquire : DescramblerKeyTable ρ × Except DescramblerKeyLookupError DescramblerKeySlotId :=
  match t.slots.get token with
  | none => (t, .error .UnknownToken)
  | some state =>
    if state.expired then (t, .error .ExpiredToken)
    else
      match checked_add U64_MAX state.refcount 1 with
      | none => (t, .error .ExpiredToken)
      | some refcount =>
        ({ t with slots := t.slots.insert token { state with refcount } }, .ok state.slot)

def release : DescramblerKeyTable ρ × Except DescramblerKeyLookupError Unit :=
  match t.slots.get token with
  | none => (t, .error .UnknownToken)
  | some state =>
    if state.refcount = 0 then (t, .error .ExpiredToken)
    else if state.refcount - 1 = 0 then ({ t with slots := t.slots.erase token }, .ok ())
    else
      ({ t with slots := t.slots.insert token { state with refcount := state.refcount - 1 } },
        .ok ())

end Functions

/-! ## What one call does -/

variable {t t' : DescramblerKeyTable ρ} {token token' : DescramblerKeyToken} {reference : ρ}
  {slot : DescramblerKeySlotId} {state state' : DescramblerKeySlotState ρ}

section

variable (t token)

theorem publish.cases (reference : ρ) :
    (∃ state, t.slots.get token = some state ∧ t.publish token reference =
      ({ t with slots := t.slots.insert token { state with expired := false } }, .ok state.slot)) ∨
    (t.slots.get token = none ∧ t.publish token reference = (t, .error .SlotIdExhausted)) ∨
    (t.slots.get token = none ∧ t.publish token reference =
      (⟨t.slots.insert token ⟨reference, t.next_slot, 0, false⟩, t.next_slot + 1⟩,
        .ok t.next_slot)) := by
  unfold publish
  cases hget : t.slots.get token with
  | some state => exact .inl ⟨state, rfl, rfl⟩
  | none =>
    right
    dsimp only [checked_add]
    split_ifs
    · exact .inr ⟨rfl, rfl⟩
    · exact .inl ⟨rfl, rfl⟩

theorem acquire.cases :
    (∃ error, t.acquire token = (t, .error error)) ∨
    ∃ state, t.slots.get token = some state ∧ t.acquire token =
      ({ t with slots := t.slots.insert token { state with refcount := state.refcount + 1 } },
        .ok state.slot) := by
  unfold acquire
  cases hget : t.slots.get token with
  | none => exact .inl ⟨_, rfl⟩
  | some state =>
    dsimp only
    split
    · exact .inl ⟨_, rfl⟩
    unfold checked_add
    split_ifs
    · exact .inr ⟨state, rfl, rfl⟩
    · exact .inl ⟨_, rfl⟩

/-- A release fails only for a token without references, and the last one removes the token. -/
theorem release.cases :
    (∃ error, t.release token = (t, .error error) ∧
      ∀ state, t.slots.get token = some state → state.refcount = 0) ∨
    ∃ state, t.slots.get token = some state ∧
      ((state.refcount = 1 ∧
        t.release token = ({ t with slots := t.slots.erase token }, .ok ())) ∨
      ∃ n, state.refcount = n + 1 ∧ 0 < n ∧ t.release token =
        ({ t with slots := t.slots.insert token { state with refcount := n } }, .ok ())) := by
  unfold release
  cases hget : t.slots.get token with
  | none => exact .inl ⟨_, rfl, nofun⟩
  | some state =>
    dsimp only
    split
    · rename_i hzero
      refine .inl ⟨_, rfl, fun state' h => ?_⟩
      cases h
      exact hzero
    refine .inr ⟨state, rfl, ?_⟩
    split
    · exact .inl ⟨by omega, rfl⟩
    · exact .inr ⟨state.refcount - 1, by omega, by omega, rfl⟩

theorem discard.cases (slot : DescramblerKeySlotId) :
    t.discard_if_unreferenced token slot = t ∨
    ∃ state, t.slots.get token = some state ∧ state.refcount = 0 ∧
      t.discard_if_unreferenced token slot = { t with slots := t.slots.erase token } := by
  unfold discard_if_unreferenced
  split
  · rename_i hany
    obtain ⟨state, hget, hstate⟩ := Option.any_eq_true _ _ |>.mp hany
    have hzero : state.slot = slot ∧ state.refcount = 0 := of_decide_eq_true hstate
    exact .inr ⟨state, hget, hzero.2, rfl⟩
  · exact .inl rfl

end

/-! ## Calls and runs -/

end DescramblerKeyTable

inductive KeyCall (ρ : Type)
  | publish (token : DescramblerKeyToken) (reference : ρ)
  | acquire (token : DescramblerKeyToken)
  | release (token : DescramblerKeyToken)
  | discard_if_unreferenced (token : DescramblerKeyToken) (slot : DescramblerKeySlotId)
  | begin_refresh (token : DescramblerKeyToken) (slot : DescramblerKeySlotId)

inductive KeyAnswer
  | published (answer : Except DescramblerKeyPublishError DescramblerKeySlotId)
  | acquired (answer : Except DescramblerKeyLookupError DescramblerKeySlotId)
  | released (answer : Except DescramblerKeyLookupError Unit)
  | discarded
  | requested (answer : Option DescramblerKeyRefreshRequest)

namespace DescramblerKeyTable

variable {ρ : Type} {t t' : DescramblerKeyTable ρ} {token token' : DescramblerKeyToken}
  {reference : ρ} {slot : DescramblerKeySlotId} {state state' : DescramblerKeySlotState ρ}
  {call : KeyCall ρ} {before calls : List (KeyCall ρ)} {request : DescramblerKeyRefreshRequest}

/-- The table after a call, and the call with its answer. -/
def step (t : DescramblerKeyTable ρ) (call : KeyCall ρ) :
    DescramblerKeyTable ρ × KeyCall ρ × KeyAnswer :=
  match call with
  | .publish token reference =>
    ((t.publish token reference).1, call, .published (t.publish token reference).2)
  | .acquire token => ((t.acquire token).1, call, .acquired (t.acquire token).2)
  | .release token => ((t.release token).1, call, .released (t.release token).2)
  | .discard_if_unreferenced token slot =>
    (t.discard_if_unreferenced token slot, call, .discarded)
  | .begin_refresh token slot => (t, call, .requested (t.begin_refresh token slot))

def table_after (calls : List (KeyCall ρ)) : DescramblerKeyTable ρ := (run step {} calls).1

/-- The call took a reference to the token. -/
def acquires (token : DescramblerKeyToken) : KeyCall ρ × KeyAnswer → Bool
  | (.acquire token', .acquired (.ok _)) => token' = token
  | _ => false

/-- The call gave a reference to the token back. -/
def releases (token : DescramblerKeyToken) : KeyCall ρ × KeyAnswer → Bool
  | (.release token', .released (.ok _)) => token' = token
  | _ => false

/-- The publication of the token that made the slot. -/
structure Creates (t : DescramblerKeyTable ρ) (token : DescramblerKeyToken) (reference : ρ)
    (slot : DescramblerKeySlotId) : Prop where
  unknown : t.slots.get token = none
  answer : (t.publish token reference).2 = .ok slot

/-- The token keeps its slot and its reference, and its count follows the calls. -/
structure Carries (state state' : DescramblerKeySlotState ρ) (acquired released : Bool) : Prop where
  slot : state'.slot = state.slot
  reference : state'.reference = state.reference
  count : state'.refcount + released.toNat = state.refcount + acquired.toNat

theorem Carries.refl (state : DescramblerKeySlotState ρ) : Carries state state false false :=
  ⟨rfl, rfl, rfl⟩

/-- A token of the table after a call was there before it, or the call created it. -/
theorem get_of_step (h : (t.step call).1.slots.get token = some state') :
    (∃ state, t.slots.get token = some state ∧
      Carries state state' (acquires token (t.step call).2) (releases token (t.step call).2)) ∨
    (call = .publish token state'.reference ∧ t.Creates token state'.reference state'.slot ∧
      state'.refcount = 0) := by
  cases call with
  | publish token' reference =>
    rcases publish.cases t token' reference with
      ⟨state, hget, heq⟩ | ⟨-, heq⟩ | ⟨hget, heq⟩ <;> dsimp only [step] at h <;> rw [heq] at h
    · rcases FinMap.get_of_insert h with ⟨rfl, rfl⟩ | ⟨-, hold⟩
      · exact .inl ⟨state, hget, rfl, rfl, rfl⟩
      · exact .inl ⟨state', hold, .refl state'⟩
    · exact .inl ⟨state', h, .refl state'⟩
    · rcases FinMap.get_of_insert h with ⟨rfl, rfl⟩ | ⟨-, hold⟩
      · exact .inr ⟨rfl, ⟨hget, by rw [heq]⟩, rfl⟩
      · exact .inl ⟨state', hold, .refl state'⟩
  | acquire token' =>
    left
    rcases acquire.cases t token' with ⟨error, heq⟩ | ⟨state, hget, heq⟩ <;>
      dsimp only [step] at h ⊢ <;> rw [heq] at h ⊢
    · exact ⟨state', h, .refl state'⟩
    · rcases FinMap.get_of_insert h with ⟨rfl, rfl⟩ | ⟨hne, hold⟩
      · exact ⟨state, hget, rfl, rfl, by simp [acquires, releases]⟩
      · exact ⟨state', hold, rfl, rfl, by simp [acquires, releases, hne.symm]⟩
  | release token' =>
    left
    rcases release.cases t token' with
      ⟨error, heq, -⟩ | ⟨state, hget, ⟨-, heq⟩ | ⟨n, hcount, -, heq⟩⟩ <;>
      dsimp only [step] at h ⊢ <;> rw [heq] at h ⊢
    · exact ⟨state', h, .refl state'⟩
    · obtain ⟨hne, hold⟩ := FinMap.get_of_erase h
      exact ⟨state', hold, rfl, rfl, by simp [acquires, releases, hne.symm]⟩
    · rcases FinMap.get_of_insert h with ⟨rfl, rfl⟩ | ⟨hne, hold⟩
      · exact ⟨state, hget, rfl, rfl, by simp [acquires, releases, hcount]⟩
      · exact ⟨state', hold, rfl, rfl, by simp [acquires, releases, hne.symm]⟩
  | discard_if_unreferenced token' slot =>
    left
    rcases discard.cases t token' slot with heq | ⟨state, -, -, heq⟩ <;>
      dsimp only [step] at h <;> rw [heq] at h
    · exact ⟨state', h, .refl state'⟩
    · exact ⟨state', (FinMap.get_of_erase h).2, .refl state'⟩
  | begin_refresh token' slot => exact .inl ⟨state', h, .refl state'⟩

theorem Creates.slot_eq (h : t.Creates token reference slot) :
    slot = t.next_slot ∧ (t.publish token reference).1.next_slot = t.next_slot + 1 := by
  obtain ⟨hunknown, hanswer⟩ := h
  rcases publish.cases t token reference with ⟨state, hget, -⟩ | ⟨-, heq⟩ | ⟨-, heq⟩
  · rw [hget] at hunknown
    cases hunknown
  · rw [heq] at hanswer
    cases hanswer
  · rw [heq] at hanswer ⊢
    cases hanswer
    exact ⟨rfl, rfl⟩

section

variable (t)

section

variable (token)

theorem next_slot_publish_le (reference : ρ) :
    t.next_slot ≤ (t.publish token reference).1.next_slot := by
  rcases publish.cases t token reference with ⟨state, -, heq⟩ | ⟨-, heq⟩ | ⟨-, heq⟩ <;> rw [heq]
  exact Nat.le_succ _

theorem next_slot_acquire : (t.acquire token).1.next_slot = t.next_slot := by
  rcases acquire.cases t token with ⟨error, heq⟩ | ⟨state, -, heq⟩ <;> rw [heq]

theorem next_slot_release : (t.release token).1.next_slot = t.next_slot := by
  rcases release.cases t token with
    ⟨error, heq, -⟩ | ⟨state, -, ⟨-, heq⟩ | ⟨n, -, -, heq⟩⟩ <;> rw [heq]

theorem next_slot_discard (slot : DescramblerKeySlotId) :
    (t.discard_if_unreferenced token slot).next_slot = t.next_slot := by
  rcases discard.cases t token slot with heq | ⟨state, -, -, heq⟩ <;> rw [heq]

end

theorem next_slot_le_step (call : KeyCall ρ) : t.next_slot ≤ (t.step call).1.next_slot := by
  cases call with
  | publish token reference => exact t.next_slot_publish_le token reference
  | acquire token => exact (t.next_slot_acquire token).ge
  | release token => exact (t.next_slot_release token).ge
  | discard_if_unreferenced token slot => exact (t.next_slot_discard token slot).ge
  | begin_refresh => exact le_rfl

end

/-! ## A slot belongs to one publication -/

theorem table_after_cons (before after : List (KeyCall ρ)) (call : KeyCall ρ) :
    table_after (before ++ call :: after) =
      (run step ((table_after before).step call).1 after).1 := by
  rw [table_after, run_append]
  rfl

theorem table_after_snoc (before : List (KeyCall ρ)) (call : KeyCall ρ) :
    table_after (before ++ [call]) = ((table_after before).step call).1 :=
  table_after_cons before [] call

theorem next_slot_le_run (t : DescramblerKeyTable ρ) (calls : List (KeyCall ρ)) :
    t.next_slot ≤ (run step t calls).1.next_slot :=
  run_keeps (P := fun t' => t.next_slot ≤ t'.next_slot)
    (fun t' call h => h.trans (t'.next_slot_le_step call)) t calls le_rfl

/-- The slot was given out, and only tokens that pass have it. -/
def OnlyFor (t : DescramblerKeyTable ρ) (slot : DescramblerKeySlotId)
    (P : DescramblerKeyToken → Prop) : Prop :=
  slot < t.next_slot ∧ ∀ token state, t.slots.get token = some state → state.slot = slot → P token

theorem OnlyFor.step {P : DescramblerKeyToken → Prop} (h : t.OnlyFor slot P) (call : KeyCall ρ) :
    (t.step call).1.OnlyFor slot P := by
  refine ⟨h.1.trans_le (t.next_slot_le_step call), fun token state' hget hslot => ?_⟩
  rcases get_of_step hget with ⟨state, hold, hcarries⟩ | ⟨-, hcreates, -⟩
  · exact h.2 token state hold (hcarries.slot.symm.trans hslot)
  · have hnew := hcreates.slot_eq.1
    rw [hslot] at hnew
    exact absurd hnew h.1.ne

theorem OnlyFor.run {P : DescramblerKeyToken → Prop} (h : t.OnlyFor slot P)
    (calls : List (KeyCall ρ)) : (run DescramblerKeyTable.step t calls).1.OnlyFor slot P :=
  run_keeps (P := fun t' => t'.OnlyFor slot P) (fun _ call h => h.step call) t calls h

theorem only_for_its_token (calls : List (KeyCall ρ))
    (h : (table_after calls).slots.get token = some state) :
    (table_after calls).OnlyFor state.slot (· = token) := by
  induction calls using reverseRecOn generalizing token state with
  | nil => cases h
  | append_singleton calls call ih =>
    rw [table_after_snoc] at h ⊢
    rcases get_of_step h with ⟨old, hold, hcarries⟩ | ⟨hcall, hcreates, -⟩
    · rw [hcarries.slot]
      exact (ih hold).step call
    · obtain ⟨hslot, hnext⟩ := hcreates.slot_eq
      subst hcall
      refine ⟨?_, fun token' state' hget' hsame => ?_⟩
      · rw [hslot]
        exact hnext.ge
      · rcases get_of_step hget' with ⟨old, hold, hcarries⟩ | ⟨hcall, -, -⟩
        · -- a slot that was there is below the one of the new publication
          have hlt := (ih hold).1
          rw [← hcarries.slot, hsame, hslot] at hlt
          exact absurd hlt (lt_irrefl _)
        · exact (KeyCall.publish.inj hcall).1.symm

section

variable (h : (table_after before).Creates token reference slot)
include h

theorem Creates.not_again {mid : List (KeyCall ρ)} {reference' : ρ} :
    ¬ (table_after (before ++ .publish token reference :: mid)).Creates token' reference' slot := by
  intro h'
  obtain ⟨hslot, hnext⟩ := h.slot_eq
  have hle := next_slot_le_run ((table_after before).step (.publish token reference)).1 mid
  rw [← table_after_cons, ← h'.slot_eq.1, hslot] at hle
  exact absurd (hnext.ge.trans hle) (Nat.not_succ_le_self _)

/-- No two publications of a run create one slot. -/
theorem Creates.unique {before' after after' : List (KeyCall ρ)} {reference' : ρ}
    (h' : (table_after before').Creates token' reference' slot)
    (hsame : before ++ .publish token reference :: after =
      before' ++ .publish token' reference' :: after') :
    before = before' := by
  rcases append_eq_append_iff.mp hsame with ⟨mid, hmid, hrest⟩ | ⟨mid, hmid, hrest⟩
  · cases mid with
    | nil => rw [hmid, append_nil]
    | cons call mid =>
      cases hrest
      exact absurd (hmid ▸ h') h.not_again
  · cases mid with
    | nil => rw [hmid, append_nil]
    | cons call mid =>
      cases hrest
      exact absurd (hmid ▸ h) h'.not_again

end

/-! ## Where a token comes from -/

/-- The calls of `after` with their answers, when they follow `before` and `call`. -/
def trace_since (before : List (KeyCall ρ)) (call : KeyCall ρ) (after : List (KeyCall ρ)) :
    List (KeyCall ρ × KeyAnswer) :=
  (run step (table_after (before ++ [call])) after).2

theorem trace_since_snoc (before after : List (KeyCall ρ)) (call last : KeyCall ρ) :
    trace_since before call (after ++ [last]) = trace_since before call after ++
      [((table_after (before ++ call :: after)).step last).2] := by
  rw [trace_since, run_snoc, table_after_cons before after, ← table_after_snoc]
  rfl

/-- More references to the token were taken in these calls than given back. -/
def StillHeld (token : DescramblerKeyToken) (trace : List (KeyCall ρ × KeyAnswer)) : Prop :=
  trace.countP (releases token) < trace.countP (acquires token)

/-- The count of a token is what was taken and not given back since its publication. -/
theorem origin (calls : List (KeyCall ρ)) (h : (table_after calls).slots.get token = some state) :
    ∃ before after, calls = before ++ .publish token state.reference :: after ∧
      (table_after before).Creates token state.reference state.slot ∧
      (trace_since before (.publish token state.reference) after).countP (acquires token) =
        (trace_since before (.publish token state.reference) after).countP (releases token) +
          state.refcount := by
  induction calls using reverseRecOn generalizing state with
  | nil => cases h
  | append_singleton calls call ih =>
    rw [table_after_snoc] at h
    rcases get_of_step h with ⟨old, hold, hcarries⟩ | ⟨hcall, hcreates, hzero⟩
    · obtain ⟨hslot, hreference, hstep⟩ := hcarries
      obtain ⟨before, after, rfl, hcreates, hcount⟩ := ih hold
      rw [hreference, hslot]
      refine ⟨before, after ++ [call], by rw [append_assoc]; rfl, hcreates, ?_⟩
      rw [trace_since_snoc, countP_append, countP_append, countP_singleton,
        countP_singleton]
      have hone : ∀ b : Bool, b.toNat = if b then 1 else 0 := by decide
      rw [hone, hone] at hstep
      omega
    · subst hcall
      exact ⟨calls, [], rfl, hcreates, by rw [hzero]; rfl⟩

/-! ## Snapshots -/

theorem of_is_live_request (h : t.is_live_request request) :
    ∃ state, t.slots.get request.token = some state ∧ state.slot = request.slot ∧
      0 < state.refcount := by
  unfold is_live_request at h
  split at h
  · cases h
  rename_i state hget
  obtain ⟨hslot, hcount, -⟩ := of_decide_eq_true h
  exact ⟨state, hget, hslot, hcount⟩

/-- A key that a snapshot returns is read from the reference that its slot has in the table. -/
theorem of_snapshot {snapshot : Nat → ρ → Except CasKeyResolveError DescramblerKeySlot}
    {requests : List DescramblerKeyRefreshRequest} {key : DescramblerKeySlot}
    (h : (t.snapshot_packet_keys snapshot requests).key_slot slot = some key) :
    ∃ token state i, t.slots.get token = some state ∧ state.slot = slot ∧ 0 < state.refcount ∧
      snapshot i state.reference = .ok key := by
  rw [snapshot_packet_keys] at h
  generalize requests.zipIdx = looks at h
  -- the key of the slot is the one of the last live request that found it
  induction looks using reverseRecOn with
  | nil => cases h
  | append_singleton rest x ih =>
    rw [foldl_append, foldl_cons, foldl_nil, snapshot_request] at h
    split at h
    · rename_i hlive
      obtain ⟨state, hget, hslot, hcount⟩ := of_is_live_request hlive
      rw [hget] at h
      dsimp only at h
      split at h
      · rename_i key' hkey
        rcases OrdMap.get_of_insert h with ⟨rfl, rfl⟩ | h
        · exact ⟨_, state, x.2, hget, hslot, hcount, hkey⟩
        · exact ih h
      · exact ih h
    · exact ih h

/-- The request was answered in the run. -/
def Requested (calls : List (KeyCall ρ)) (request : DescramblerKeyRefreshRequest) : Prop :=
  ∃ before after token slot, calls = before ++ .begin_refresh token slot :: after ∧
    (table_after before).begin_refresh token slot = some request

theorem of_begin_refresh (h : t.begin_refresh token slot = some request) :
    request = ⟨token, slot⟩ ∧ ∃ state, t.slots.get token = some state ∧ state.slot = slot := by
  unfold begin_refresh at h
  split at h
  · cases h
  rename_i state hget
  split at h
  · cases h
  rename_i hchecks
  cases h
  exact ⟨rfl, state, hget, not_not.mp fun hne => hchecks (.inl hne)⟩

/-- The slot of a request stays with the token of the request. -/
theorem Requested.only_for (h : Requested calls request) :
    (table_after calls).OnlyFor request.slot (· = request.token) := by
  obtain ⟨before, after, token, slot, rfl, hrequest⟩ := h
  obtain ⟨rfl, state, hget, rfl⟩ := of_begin_refresh hrequest
  rw [table_after_cons]
  exact ((only_for_its_token before hget).step _).run after

/-- The release takes the last reference of the token. -/
structure LastRelease (t : DescramblerKeyTable ρ) (token : DescramblerKeyToken) : Prop where
  answer : (t.release token).2 = .ok ()
  gone : (t.release token).1.slots.get token = none

/-- A key that is returned for a slot is read from the reference of the one publication that created
the slot, while its token is held. After the last release of a publication, the requests made for
its token before yield no key. -/
theorem refresh_never_crosses_publications (calls : List (KeyCall ρ)) :
    (∀ snapshot requests slot key,
      ((table_after calls).snapshot_packet_keys snapshot requests).key_slot slot = some key →
      ∃ before after token reference i, calls = before ++ .publish token reference :: after ∧
        (table_after before).Creates token reference slot ∧ snapshot i reference = .ok key ∧
        StillHeld token (trace_since before (.publish token reference) after)) ∧
    (∀ slot before before' after after' token token' reference reference',
      calls = before ++ .publish token reference :: after →
      calls = before' ++ .publish token' reference' :: after' →
      (table_after before).Creates token reference slot →
      (table_after before').Creates token' reference' slot → before = before') ∧
    ∀ before after token request, calls = before ++ .release token :: after →
      (table_after before).LastRelease token → Requested before request → request.token = token →
      ∀ snapshot requests,
        ((table_after calls).snapshot_packet_keys snapshot requests).key_slot request.slot =
          none := by
  refine ⟨fun snapshot requests slot key h => ?_,
    fun slot before before' after after' token token' reference reference' hcalls hcalls' h h' =>
      h.unique h' (hcalls.symm.trans hcalls'), ?_⟩
  · obtain ⟨token, state, i, hget, rfl, hcount, hkey⟩ := of_snapshot h
    obtain ⟨before, after, hcalls, hcreates, hsum⟩ := origin calls hget
    refine ⟨before, after, token, state.reference, i, hcalls, hcreates, hkey, ?_⟩
    rw [StillHeld]
    omega
  · rintro before after token request rfl hlast hrequested rfl snapshot requests
    -- after the release no token has the slot, and no later one gets it
    have honly := hrequested.only_for.step (.release request.token)
    have hnone : ((table_after before).step (.release request.token)).1.OnlyFor request.slot
        fun _ => False := by
      refine ⟨honly.1, fun token state hget hslot => ?_⟩
      cases honly.2 token state hget hslot
      exact absurd (hget.symm.trans hlast.gone) (Option.some_ne_none state)
    have hlater := hnone.run after
    rw [← table_after_cons] at hlater
    refine Option.eq_none_iff_forall_not_mem.mpr fun key hkey => ?_
    obtain ⟨token, state, -, hget, hslot, -⟩ := of_snapshot hkey
    exact hlater.2 token state hget hslot

def refreshed : DescramblerKeyToken := ⟨[1], nofun, by decide⟩

/-- A key that is held for a refresh, given back, and published and held again. -/
def reissue : List (KeyCall Unit) :=
  [.publish refreshed (), .acquire refreshed, .begin_refresh refreshed 1, .release refreshed,
    .publish refreshed (), .acquire refreshed]

/-- Whatever the CAS answers, the request of the first publication yields no key any more; one for
the second publication yields the key that its reference gives. -/
theorem the_old_request_yields_no_key :
    (∀ snapshot requests,
      ((table_after reissue).snapshot_packet_keys snapshot requests).key_slot 1 = none) ∧
    ∃ before after token reference, reissue = before ++ .publish token reference :: after ∧
      (table_after before).Creates token reference 2 ∧
      StillHeld token (trace_since before (.publish token reference) after) := by
  obtain ⟨hread, -, hreleased⟩ := refresh_never_crosses_publications reissue
  refine ⟨hreleased (reissue.take 3) (reissue.drop 4) refreshed ⟨refreshed, 1⟩ rfl ⟨rfl, rfl⟩
    ⟨reissue.take 2, [], refreshed, 1, rfl, rfl⟩ rfl, ?_⟩
  obtain ⟨before, after, token, reference, -, hcalls, hcreates, -, hheld⟩ :=
    hread (fun _ _ => .ok {}) [⟨refreshed, 2⟩] 2 {} rfl
  exact ⟨before, after, token, reference, hcalls, hcreates, hheld⟩

end DescramblerKeyTable

end tuner_hal2_service_runtime
