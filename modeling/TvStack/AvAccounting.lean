-- The accounts of AV memory are exact: over every order of allocations,
-- releases, discards and drops the used bytes are those of the live payloads,
-- whatever the system calls answer.
import TvStack.AvBacking

open List Machines Words

namespace tuner_hal2_demux.av

open AvSlotState AvRuntimeBudget AvSharedBacking

variable {claim : PendingAvRuntimeClaim} {data_id : Int} {data_length : Nat}

/-! ## The books of one backing -/

/-- The bytes that a slot holds. -/
def AvSlotState.bytes (slot : AvSlotState) : Nat :=
  if slot.active_data_id.isSome then slot.data_length else 0

namespace AvSharedBacking

variable (b : AvSharedBacking)

/-- The bytes that a backing has reserved: the payloads in its shared slots and the event-local
allocations. -/
def liveBytes : Nat :=
  (b.active_slots.map (·.data_length)).sum + b.event_local_allocations.total (·.length)

theorem active_slots_sum (slots : List AvSlotState) :
    ((slots.filter (·.active_data_id.isSome)).map (·.data_length)).sum =
      (slots.map bytes).sum := by
  induction slots with
  | nil => rfl
  | cons slot rest ih =>
    cases hactive : slot.active_data_id.isSome with
    | true | false => simp [hactive, ih, bytes]

theorem liveBytes_eq :
    b.liveBytes = (b.slots.map bytes).sum +
      b.event_local_allocations.total (·.length) := by
  rw [liveBytes, active_slots, active_slots_sum]

/-- A change of one slot changes the sum by that slot. -/
theorem sum_modify {slots : List AvSlotState} {i : Nat} {slot : AvSlotState}
    (h : slots[i]? = some slot) (f : AvSlotState → AvSlotState) :
    ((slots.modify i f).map bytes).sum + slot.bytes =
      (slots.map bytes).sum + (f slot).bytes := by
  induction slots generalizing i with
  | nil => simp at h
  | cons s rest ih =>
    cases i with
    | zero =>
      rw [getElem?_cons_zero, Option.some.injEq] at h
      rw [modify_zero_cons, h]
      simp only [map_cons, sum_cons]
      omega
    | succ i =>
      have hrest := ih h
      rw [modify_succ_cons]
      simp only [map_cons, sum_cons]
      omega

/-- A slot behind the change of one slot. -/
theorem mem_modify {slots : List AvSlotState} {i : Nat} {f : AvSlotState → AvSlotState}
    {slot : AvSlotState} (h : slot ∈ slots.modify i f) :
    slot ∈ slots ∨ ∃ old, slots[i]? = some old ∧ slot = f old := by
  obtain ⟨j, hj⟩ := mem_iff_getElem?.mp h
  rw [getElem?_modify] at hj
  cases hold : slots[j]? with
  | none =>
    rw [hold] at hj
    cases hj
  | some old =>
    rw [hold] at hj
    by_cases hij : i = j
    · subst hij
      simp only [Option.map_eq_map, Option.map_some, Option.some.injEq] at hj
      exact .inr ⟨old, hold, hj.symm⟩
    · simp only [hij, Option.map_eq_map, Option.map_some, Option.some.injEq] at hj
      exact .inl (hj ▸ mem_of_getElem? hold)

/-- The invariant of a backing, beside the data ids that were issued. -/
structure Sound (b : AvSharedBacking) (issued : Int) : Prop where
  event_bytes : b.event_local_bytes = b.event_local_allocations.total (·.length)
  slots_fit : ∀ slot ∈ b.slots, slot.active_data_id.isSome → slot.data_length ≤ b.slot_size
  ids_issued : ∀ x ∈ b.event_local_allocations.items, x.1 ≤ issued

/-- No two live payloads overlap in the shared buffer, where slot `i` starts at
`i * slot_size`. -/
def SlotsDisjoint : Prop :=
  ∀ i j s t, i < j → b.slots[i]? = some s → b.slots[j]? = some t →
    s.active_data_id.isSome → t.active_data_id.isSome →
    i * b.slot_size + s.data_length ≤ j * b.slot_size

theorem Sound.slots_disjoint {b : AvSharedBacking} {issued : Int} (h : b.Sound issued) :
    b.SlotsDisjoint := by
  intro i j s t hij hs _ hactive _
  have hfits := h.slots_fit s (mem_of_getElem? hs) hactive
  calc i * b.slot_size + s.data_length ≤ i * b.slot_size + b.slot_size := by omega
    _ = (i + 1) * b.slot_size := by rw [Nat.add_mul, Nat.one_mul]
    _ ≤ j * b.slot_size := Nat.mul_le_mul_right _ hij

end AvSharedBacking

/-- What a backing may read of its books before a call: the budget covers it. -/
structure Books (b : AvSharedBacking) (shared : AvRuntime) : Prop where
  sound : b.Sound shared.data_id_allocator.issued_high_watermark
  covered : b.liveBytes ≤ shared.runtime_budget.used_bytes
  within : shared.runtime_budget.used_bytes ≤ shared.runtime_budget.limit_bytes
  clean : shared.runtime_budget.corrupt = false
  issued : 0 ≤ shared.data_id_allocator.issued_high_watermark

/-- A call keeps the books: what the budget charges is what the backing reserves. -/
structure Kept (b : AvSharedBacking) (shared : AvRuntime) (b' : AvSharedBacking)
    (shared' : AvRuntime) : Prop where
  balance : shared'.runtime_budget.used_bytes + b.liveBytes =
    shared.runtime_budget.used_bytes + b'.liveBytes
  sound : b'.Sound shared'.data_id_allocator.issued_high_watermark
  limit : shared'.runtime_budget.limit_bytes = shared.runtime_budget.limit_bytes
  within : shared'.runtime_budget.used_bytes ≤ shared'.runtime_budget.limit_bytes
  clean : shared'.runtime_budget.corrupt = false
  issued : shared.data_id_allocator.issued_high_watermark ≤
    shared'.data_id_allocator.issued_high_watermark

variable {b : AvSharedBacking} {shared : AvRuntime}

abbrev Keeps {α : Type} (b : AvSharedBacking) (shared : AvRuntime) (call : AvCall α) : Prop :=
  Kept b shared call.backing call.shared

theorem AvSharedBacking.Sound.mono {issued issued' : Int} (h : b.Sound issued)
    (hle : issued ≤ issued') : b.Sound issued' :=
  ⟨h.event_bytes, h.slots_fit, fun x hx => Int.le_trans (h.ids_issued x hx) hle⟩

theorem Books.kept {b' : AvSharedBacking} (h : Books b shared)
    (hslots : b'.slots = b.slots := by rfl) (hsize : b'.slot_size = b.slot_size := by rfl)
    (hbytes : b'.event_local_bytes = b.event_local_bytes := by rfl)
    (hlocal : b'.event_local_allocations = b.event_local_allocations := by rfl) :
    Kept b shared b' shared where
  balance := by
    rw [liveBytes_eq, liveBytes_eq, hslots, hlocal]
  sound := by
    refine ⟨?_, ?_, ?_⟩
    · rw [hbytes, hlocal]
      exact h.sound.event_bytes
    · rw [hslots, hsize]
      exact h.sound.slots_fit
    · rw [hlocal]
      exact h.sound.ids_issued
  limit := rfl
  within := h.within
  clean := h.clean
  issued := Int.le_refl _

/-! ## Claims and data ids -/

/-- A claim that is given. Its drop leaves the budget as it was. -/
theorem prepare.spec {budget : AvRuntimeBudget} {bytes : Nat}
    (h : PendingAvRuntimeClaim.prepare budget bytes = .ok (some claim)) :
    claim.commit = { budget with used_bytes := budget.used_bytes + bytes } ∧
      budget.used_bytes + bytes ≤ budget.limit_bytes ∧ claim.drop = budget := by
  unfold PendingAvRuntimeClaim.prepare try_claim checked_add at h
  split_ifs at h with hcorrupt hmax
  by_cases hlimit : budget.limit_bytes < budget.used_bytes + bytes
  · simp only [hlimit] at h
    cases h
  simp only [hlimit, if_false, Except.ok.injEq, Option.some.injEq] at h
  subst h
  refine ⟨rfl, by omega, ?_⟩
  simp only [PendingAvRuntimeClaim.drop, release_after_owner_drop,
    release, checked_sub, Nat.le_add_left, if_true, Nat.add_sub_cancel]

theorem release.covered {budget : AvRuntimeBudget} {bytes : Nat} (h : bytes ≤ budget.used_bytes) :
    budget.release bytes = ({ budget with used_bytes := budget.used_bytes - bytes }, true) := by
  simp only [release, checked_sub, h, if_true]

theorem issue.spec {a a' : AvDataIdAllocator} (h : a.issue = some (a', data_id)) :
    data_id = a.issued_high_watermark + 1 ∧ a'.issued_high_watermark = data_id ∧ 0 < data_id := by
  unfold AvDataIdAllocator.issue at h
  split_ifs at h with hnext
  cases h
  exact ⟨rfl, rfl, hnext.2⟩

/-! ## Allocations -/

/-- The end of an allocation. It delivers the next data id and keeps the books, or it fails and
leaves everything as it was. -/
inductive Allocated (b : AvSharedBacking) (shared : AvRuntime) :
    AvSharedBacking → AvRuntime → AvResult AvPayloadDeliveryOutcome → Prop
  | failed (result : AvResult AvPayloadDeliveryOutcome)
      (hresult : ∀ event, result ≠ .ok (.Delivered event)) : Allocated b shared b shared result
  | delivered (b' : AvSharedBacking) (shared' : AvRuntime) (event : AvMediaEventDescriptor)
      (hkept : Kept b shared b' shared')
      (hid : event.data_id = shared.data_id_allocator.issued_high_watermark + 1)
      (hissued : shared'.data_id_allocator.issued_high_watermark = event.data_id) :
      Allocated b shared b' shared' (.ok (.Delivered event))

/-- The end of an allocation whose result is read as `f` says. -/
abbrev Ends {α : Type} (b : AvSharedBacking) (shared : AvRuntime)
    (f : α → AvResult AvPayloadDeliveryOutcome) (call : AvCall α) : Prop :=
  Allocated b shared call.backing call.shared (f call.result)

/-- A backing that holds the bytes of its claim under the next data id. -/
theorem Allocated.committed {b' : AvSharedBacking} {bytes : Nat} {a : AvDataIdAllocator}
    {event : AvMediaEventDescriptor} (h : Books b shared)
    (hclaim : PendingAvRuntimeClaim.prepare shared.runtime_budget bytes = .ok (some claim))
    (hissue : shared.data_id_allocator.issue = some (a, event.data_id))
    (hlive : b'.liveBytes = b.liveBytes + bytes) (hsound : b'.Sound event.data_id) :
    Allocated b shared b' { runtime_budget := claim.commit, data_id_allocator := a }
      (.ok (.Delivered event)) := by
  obtain ⟨hcommit, hroom, -⟩ := prepare.spec hclaim
  obtain ⟨hid, hnext, -⟩ := issue.spec hissue
  refine .delivered _ _ _ ?_ hid hnext
  rw [hcommit]
  refine ⟨?_, hnext ▸ hsound, rfl, hroom, h.clean, ?_⟩
  · dsimp only
    omega
  · dsimp only
    omega

/-- The index that is found is that of a free slot, which has room for the payload. -/
theorem shared_slot_candidate.spec {i : Nat}
    (h : b.shared_slot_candidate shared data_length = .ok i) :
    data_length ≤ b.slot_size ∧ ∃ slot, b.slots[i]? = some slot ∧ slot.active_data_id = none := by
  iterate 4 obtain ⟨_, h⟩ := of_check h
  obtain ⟨hsize, h⟩ := of_check h
  iterate 2 obtain ⟨_, h⟩ := of_check h
  refine ⟨Nat.le_of_not_lt hsize, ?_⟩
  cases hfind : b.slots.findIdx? (·.active_data_id.isNone) with
  | none =>
    rw [hfind] at h
    cases h
  | some slot_index =>
    rw [hfind] at h
    obtain ⟨_, h⟩ := of_check h
    cases h
    obtain ⟨hlt, hnone, _⟩ := findIdx?_eq_some_iff_getElem.mp hfind
    exact ⟨_, getElem?_eq_getElem hlt, Option.isNone_iff_eq_none.mp hnone⟩

/-- A refusal delivers nothing. -/
theorem shared_slot_candidate.refuses {outcome : AvPayloadDeliveryOutcome}
    (h : b.shared_slot_candidate shared data_length = .error outcome)
    (event : AvMediaEventDescriptor) : outcome ≠ .Delivered event := by
  rintro rfl
  unfold shared_slot_candidate at h
  repeat' split at h
  all_goals cases h

theorem fill_slot.spec (h : Books b shared) {i : Nat} {slot : AvSlotState}
    {metadata : AvMediaEventMetadata}
    (hclaim : PendingAvRuntimeClaim.prepare shared.runtime_budget data_length = .ok (some claim))
    (hsize : data_length ≤ b.slot_size) (hslot : b.slots[i]? = some slot)
    (hfree : slot.active_data_id = none) :
    Ends b shared .ok (b.fill_slot shared claim i data_length metadata) := by
  unfold fill_slot
  cases hissue : shared.data_id_allocator.issue with
  | none =>
    simp only [(prepare.spec hclaim).2.2]
    exact .failed _ nofun
  | some issued =>
    obtain ⟨a, data_id⟩ := issued
    have hsum := sum_modify hslot fun s : AvSlotState =>
      { s with active_data_id := some data_id, data_length := data_length }
    have hzero : slot.bytes = 0 := by simp [bytes, hfree]
    refine .committed h hclaim hissue ?_ ⟨h.sound.event_bytes, ?_, fun x hx => ?_⟩
    · rw [liveBytes_eq, liveBytes_eq]
      simp only [bytes, Option.isSome_some, if_true] at hsum hzero ⊢
      omega
    · intro s hs hactive
      rcases mem_modify hs with hs | ⟨old, _, rfl⟩
      · exact h.sound.slots_fit s hs hactive
      · exact hsize
    · have hx' := h.sound.ids_issued x hx
      have hid := (issue.spec hissue).1
      dsimp only
      omega

theorem allocate_payload.spec (h : Books b shared) (data_length : Nat) :
    Ends b shared .ok (b.allocate_payload shared data_length) := by
  unfold allocate_payload
  cases hcandidate : b.shared_slot_candidate shared data_length with
  | error outcome =>
    refine .failed _ fun event heq => ?_
    exact shared_slot_candidate.refuses hcandidate event (Except.ok.inj heq)
  | ok i =>
    obtain ⟨hsize, slot, hslot, hfree⟩ := shared_slot_candidate.spec hcandidate
    dsimp only
    split
    · rename_i claim hclaim
      exact fill_slot.spec h hclaim hsize hslot hfree
    · exact .failed _ nofun

theorem event_local_candidate.refuses {length : Nat} {outcome : AvPayloadDeliveryOutcome}
    (h : b.event_local_candidate shared length = .ok (some outcome))
    (event : AvMediaEventDescriptor) : outcome ≠ .Delivered event := by
  rintro rfl
  unfold event_local_candidate at h
  repeat' split at h
  all_goals cases h

section

variable (h : Books b shared)
include h

theorem Books.next_id_absent (hid : data_id = shared.data_id_allocator.issued_high_watermark + 1) :
    b.event_local_allocations.get data_id = none := by
  cases hget : b.event_local_allocations.get data_id with
  | none => rfl
  | some allocation =>
    have hle := h.sound.ids_issued _ ((OrdMap.get_eq_some _).mp hget)
    omega

theorem insert_event_local.spec {length : Nat} {identity : AvFileIdentity}
    {metadata : AvMediaEventMetadata}
    (hclaim : PendingAvRuntimeClaim.prepare shared.runtime_budget length = .ok (some claim)) :
    Ends b shared id (b.insert_event_local shared claim identity length metadata) := by
  obtain ⟨-, hroom, hdrop⟩ := prepare.spec hclaim
  unfold insert_event_local
  cases hissue : shared.data_id_allocator.issue with
  | none =>
    simp only [hdrop]
    exact .failed _ nofun
  | some issued =>
    obtain ⟨a, data_id⟩ := issued
    have hid := (issue.spec hissue).1
    have hbytes := h.sound.event_bytes
    -- the local bytes are part of what the budget charges, so that the sum fits
    have hfits : b.event_local_bytes + length ≤ USIZE_MAX := by
      have hcovered := h.covered
      have hlimit := shared.runtime_budget.limit_fits
      rw [liveBytes] at hcovered
      omega
    simp only [checked_add, hfits, if_true]
    have htotal := OrdMap.total_insert (fun x : EventLocalAllocation => x.length)
      b.event_local_allocations data_id ⟨identity, .Active, length⟩
    rw [OrdMap.erase_absent (h.next_id_absent hid)] at htotal
    refine .committed h hclaim hissue ?_ ⟨?_, h.sound.slots_fit, fun x hx => ?_⟩
    · rw [liveBytes_eq, liveBytes_eq]
      dsimp only at htotal ⊢
      omega
    · dsimp only at htotal ⊢
      omega
    · rcases OrdMap.mem_insert.mp hx with rfl | ⟨hx, _⟩
      · exact Int.le_refl _
      · have hx' := h.sound.ids_issued x hx
        dsimp only
        omega

variable (payload : List UInt8) (metadata : AvMediaEventMetadata) (calls : AvSystemCalls)

theorem allocate_event_local.spec :
    Ends b shared id (b.allocate_event_local_payload shared payload metadata calls) := by
  unfold allocate_event_local_payload
  split
  · exact .failed _ nofun
  · rename_i outcome hcandidate
    refine .failed _ fun event heq => ?_
    exact event_local_candidate.refuses hcandidate event (Except.ok.inj heq)
  split
  · exact .failed _ nofun
  · exact .failed _ nofun
  rename_i claim hclaim
  split
  · rw [(prepare.spec hclaim).2.2]
    exact .failed _ nofun
  · exact insert_event_local.spec h hclaim

theorem allocate_payload_bytes.spec :
    Ends b shared id (b.allocate_payload_bytes shared payload metadata calls) := by
  unfold allocate_payload_bytes
  split
  · exact allocate_event_local.spec h payload metadata calls
  rename_i i hcandidate
  obtain ⟨hsize, slot, hslot, hfree⟩ := shared_slot_candidate.spec hcandidate
  split
  · exact .failed _ nofun
  · exact .failed _ nofun
  rename_i claim hclaim
  split
  · rw [(prepare.spec hclaim).2.2]
    exact .failed _ nofun
  · exact fill_slot.spec h hclaim hsize hslot hfree

/-! ## Releases -/

theorem Books.released {b' : AvSharedBacking} {bytes : Nat}
    (hbytes : b.liveBytes = b'.liveBytes + bytes)
    (hsound : b'.Sound shared.data_id_allocator.issued_high_watermark) :
    Kept b shared b' { shared with
      runtime_budget := { shared.runtime_budget with
        used_bytes := shared.runtime_budget.used_bytes - bytes } } := by
  have hcovered := h.covered
  have hwithin := h.within
  refine ⟨?_, hsound, rfl, ?_, h.clean, Int.le_refl _⟩
  · dsimp only
    omega
  · dsimp only
    omega

theorem release_slot.spec (data_id : Int) : Keeps b shared (b.release_slot shared data_id) := by
  unfold release_slot
  split
  · exact h.kept
  rename_i i hfind
  obtain ⟨hlt, hid, _⟩ := findIdx?_eq_some_iff_getElem.mp hfind
  have hslot : b.slots[i]? = some b.slots[i] := getElem?_eq_getElem hlt
  generalize b.slots[i] = slot at hid hslot
  have hactive : slot.active_data_id = some data_id := by simpa using hid
  have hlength : (b.slots.map (·.data_length)).getD i 0 = slot.data_length := by
    rw [getD_eq_getElem?_getD, getElem?_map, hslot]
    rfl
  have hsum := sum_modify hslot fun s : AvSlotState =>
    { s with active_data_id := none, data_length := 0 }
  have hbytes : slot.bytes = slot.data_length := by simp [bytes, hactive]
  have hcleared :
      ({ slot with active_data_id := none, data_length := 0 } : AvSlotState).bytes = 0 := rfl
  have hlive : b.liveBytes = { b with slots := b.slots.modify i fun s : AvSlotState =>
      { s with active_data_id := none, data_length := 0 } }.liveBytes + slot.data_length := by
    rw [liveBytes_eq, liveBytes_eq]
    dsimp only
    omega
  rw [hlength, release.covered (by have hcovered := h.covered; omega)]
  refine h.released hlive ⟨h.sound.event_bytes, ?_, h.sound.ids_issued⟩
  intro s hs hsome
  rcases mem_modify hs with hs | ⟨old, _, rfl⟩
  · exact h.sound.slots_fit s hs hsome
  · cases hsome

theorem release_data_id.spec (data_id : Int) :
    Keeps b shared (b.release_data_id shared data_id) := by
  unfold release_data_id
  split
  · exact release_slot.spec h data_id
  rename_i allocation hget
  split
  · exact h.kept
  rename_i event_local_bytes hsub
  have htotal := OrdMap.total_erase (fun x : EventLocalAllocation => x.length) hget
  have hlive : b.liveBytes = { b with
      event_local_allocations := b.event_local_allocations.erase data_id
      event_local_bytes := event_local_bytes }.liveBytes + allocation.length := by
    rw [liveBytes_eq, liveBytes_eq]
    dsimp only
    omega
  rw [release.covered (by have hcovered := h.covered; omega)]
  refine h.released hlive ⟨?_, h.sound.slots_fit, ?_⟩
  · have hbytes := h.sound.event_bytes
    unfold checked_sub at hsub
    split at hsub
    · cases hsub
      dsimp only
      omega
    · cases hsub
  · intro x hx
    exact h.sound.ids_issued x (OrdMap.mem_erase.mp hx).1

/-- The end of the lease of a handle keeps the length of its allocation. -/
theorem Books.kept_finalized {allocation : EventLocalAllocation}
    (hget : b.event_local_allocations.get data_id = some allocation) :
    Kept b shared { b with
      event_local_allocations := b.event_local_allocations.insert data_id
        { allocation with handle_lease_state := .Finalized } } shared := by
  have htotal : (b.event_local_allocations.insert data_id
      { allocation with handle_lease_state := .Finalized }).total (·.length) =
      b.event_local_allocations.total (·.length) := by
    rw [OrdMap.total_insert, OrdMap.total_erase (·.length) hget]
  refine ⟨?_, ⟨?_, h.sound.slots_fit, ?_⟩, rfl, h.within, h.clean, Int.le_refl _⟩
  · rw [liveBytes_eq, liveBytes_eq, htotal]
  · exact h.sound.event_bytes.trans htotal.symm
  · intro x hx
    rcases OrdMap.mem_insert.mp hx with rfl | ⟨hx, _⟩
    · exact h.sound.ids_issued (data_id, allocation) ((OrdMap.get_eq_some _).mp hget)
    · exact h.sound.ids_issued x hx

theorem apply_release.spec (descriptor : AvHandleReleaseDescriptor) (data_id : Int)
    (filter_state : AvFilterReleaseState) :
    Keeps b shared (b.apply_release shared descriptor data_id filter_state) := by
  unfold apply_release
  dsimp only
  split
  · exact h.kept
  · exact h.kept
  · split
    · exact h.kept
    · rename_i allocation hget
      exact h.kept_finalized hget
  · exact release_data_id.spec h _
  · exact h.kept

/-! ## Exports and drops -/

theorem export_handle.spec : Kept b shared (b.export_handle calls).1 shared := by
  unfold export_handle export_identity
  cases b.shared_handle_identity <;> cases calls.identity <;> dsimp only <;> repeat' split
  all_goals exact h.kept

/-- The drop gives exactly the live bytes back. -/
theorem drop.spec :
    b.drop shared = { shared with
      runtime_budget := { shared.runtime_budget with
        used_bytes := shared.runtime_budget.used_bytes - b.liveBytes } } := by
  have hcovered := h.covered
  have hwithin := h.within
  have hlimit := shared.runtime_budget.limit_fits
  have hbytes := h.sound.event_bytes
  have hlive : b.liveBytes = (b.active_slots.map (·.data_length)).sum + b.event_local_bytes := by
    rw [hbytes, liveBytes]
  have hfold : (b.active_slots.map (·.data_length)).foldl (saturating_add USIZE_MAX) 0 =
      0 + (b.active_slots.map (·.data_length)).sum := foldl_saturating_add _ 0 (by omega)
  have htotal : saturating_add USIZE_MAX
      ((b.active_slots.map (·.data_length)).foldl (saturating_add USIZE_MAX) 0)
      b.event_local_bytes = b.liveBytes := by
    rw [hfold, hlive, Nat.zero_add]
    exact Nat.min_eq_left (by omega)
  simp only [AvSharedBacking.drop, htotal]
  split
  · rw [release_after_owner_drop, release.covered hcovered]
  rename_i hzero
  have hzero : b.liveBytes = 0 := not_not.mp hzero
  rw [hzero, Nat.sub_zero]

end

/-! ## The service -/

namespace AvService

variable {b' : AvSharedBacking} {shared' : AvRuntime} {ans : AvAnswer}

structure Good (s : AvService) : Prop where
  used : s.shared.runtime_budget.used_bytes = s.backings.total liveBytes
  within : s.shared.runtime_budget.used_bytes ≤ s.shared.runtime_budget.limit_bytes
  clean : s.shared.runtime_budget.corrupt = false
  issued : 0 ≤ s.shared.data_id_allocator.issued_high_watermark
  sound : ∀ b ∈ s.backings.values, b.Sound s.shared.data_id_allocator.issued_high_watermark

variable {s : AvService} {id : Nat}

theorem Good.books (h : s.Good) (hget : s.backings.get id = some b) : Books b s.shared := by
  refine ⟨h.sound b (Pool.get_mem hget), ?_, h.within, h.clean, h.issued⟩
  have htotal := Pool.total_remove liveBytes hget
  rw [h.used]
  omega

/-- A call that keeps the books of its backing keeps those of the service. -/
theorem Good.put (h : s.Good) (hget : s.backings.get id = some b)
    (hkept : Kept b s.shared b' shared') :
    Good { shared := shared', backings := s.backings.set id b' } := by
  refine ⟨?_, hkept.within, hkept.clean, Int.le_trans h.issued hkept.issued, ?_⟩
  · have hbalance := hkept.balance
    have hbefore := Pool.total_remove liveBytes hget
    have hafter := Pool.total_set liveBytes hget b'
    have hused := h.used
    dsimp only
    omega
  · intro c hc
    rcases Pool.mem_set hc with rfl | hc
    · exact hkept.sound
    · exact (h.sound c hc).mono hkept.issued

/-- The data ids that an answer hands out. -/
def handed : AvAnswer → List Int
  | .allocated (.ok (.Delivered event)) => [event.data_id]
  | _ => []

/-- What a step keeps, and what its answer hands out. -/
structure Stepped (s t : AvService) (ans : AvAnswer) : Prop where
  good : t.Good
  limit : t.shared.runtime_budget.limit_bytes = s.shared.runtime_budget.limit_bytes
  issued : (handed ans = [] ∧ s.shared.data_id_allocator.issued_high_watermark ≤
      t.shared.data_id_allocator.issued_high_watermark) ∨
    (handed ans = [t.shared.data_id_allocator.issued_high_watermark] ∧
      s.shared.data_id_allocator.issued_high_watermark <
        t.shared.data_id_allocator.issued_high_watermark)
  failed : ∀ result, ans = .allocated result → (∀ event, result ≠ .ok (.Delivered event)) → t = s

theorem Good.kept (h : s.Good) (hget : s.backings.get id = some b)
    (hkept : Kept b s.shared b' shared') (hans : ∀ result, ans ≠ .allocated result) :
    Stepped s { shared := shared', backings := s.backings.set id b' } ans := by
  refine ⟨h.put hget hkept, hkept.limit, .inl ⟨?_, hkept.issued⟩, fun result heq => ?_⟩
  · cases ans with
    | allocated result => exact absurd rfl (hans result)
    | _ => rfl
  · exact absurd heq (hans result)

theorem Good.allocated (h : s.Good) (hget : s.backings.get id = some b)
    {result : AvResult AvPayloadDeliveryOutcome}
    (hal : Allocated b s.shared b' shared' result) :
    Stepped s { shared := shared', backings := s.backings.set id b' } (.allocated result) := by
  cases hal with
  | failed _ hresult =>
    have hself : { shared := s.shared, backings := s.backings.set id b } = s := by
      rw [Pool.set_self hget]
    rw [hself]
    refine ⟨h, rfl, .inl ⟨?_, Int.le_refl _⟩, fun _ _ _ => rfl⟩
    cases result with
    | error e => rfl
    | ok outcome =>
      cases outcome with
      | Delivered event => exact absurd rfl (hresult event)
      | _ => rfl
  | delivered _ _ event hkept hid hissued =>
    refine ⟨h.put hget hkept, hkept.limit, .inr ⟨?_, ?_⟩, ?_⟩
    · exact congrArg (fun n => [n]) hissued.symm
    · dsimp only
      omega
    · intro result heq hne
      cases heq
      exact absurd rfl (hne event)

/-- A drop takes the backing and its bytes out. -/
theorem Good.dropped (h : s.Good) (hget : s.backings.get id = some b) :
    Stepped s { shared := b.drop s.shared, backings := s.backings.remove id } .dropped := by
  have htotal := Pool.total_remove liveBytes hget
  have hused := h.used
  have hwithin := h.within
  rw [drop.spec (h.books hget)]
  refine ⟨⟨?_, ?_, h.clean, h.issued, ?_⟩, rfl, .inl ⟨rfl, Int.le_refl _⟩, nofun⟩
  · dsimp only
    omega
  · dsimp only
    omega
  · intro c hc
    exact h.sound c (Pool.mem_remove hc)

theorem Good.opened (h : s.Good)
    (slot_count slot_size max_event_bytes max_outstanding_events per_filter_live_bytes : Nat)
    (hans : ∀ result, ans ≠ .allocated result) :
    Stepped s { s with backings := s.backings.add (.with_profile_limits slot_count slot_size
      max_event_bytes max_outstanding_events per_filter_live_bytes) } ans := by
  have hslots : ∀ slot ∈ (with_profile_limits slot_count slot_size max_event_bytes
      max_outstanding_events per_filter_live_bytes).slots, slot.active_data_id = none := by
    intro slot hslot
    obtain ⟨idx, _, rfl⟩ := mem_map.mp hslot
    rfl
  have hnone : (with_profile_limits slot_count slot_size max_event_bytes
      max_outstanding_events per_filter_live_bytes).active_slots = [] := by
    apply filter_eq_nil_iff.mpr
    intro slot hslot
    rw [hslots slot hslot]
    exact nofun
  refine ⟨⟨?_, h.within, h.clean, h.issued, ?_⟩, rfl, .inl ⟨?_, Int.le_refl _⟩, ?_⟩
  · rw [Pool.total_add, liveBytes, hnone]
    exact h.used
  · intro c hc
    rw [Pool.values_add] at hc
    rcases mem_append.mp hc with hc | hc
    · exact h.sound c hc
    · rw [mem_singleton.mp hc]
      refine ⟨rfl, fun slot hslot hactive => ?_, nofun⟩
      rw [hslots slot hslot] at hactive
      cases hactive
  · cases ans with
    | allocated result => exact absurd rfl (hans result)
    | _ => rfl
  · intro result heq
    exact absurd heq (hans result)

/-- A call on a backing that is not live changes nothing. -/
theorem Good.on_backing (h : s.Good) {act : AvSharedBacking → AvService × AvAnswer}
    (hact : ∀ b, s.backings.get id = some b → Stepped s (act b).1 (act b).2) :
    Stepped s (s.on_backing id act).1 (s.on_backing id act).2 := by
  unfold AvService.on_backing
  split
  · exact ⟨h, rfl, .inl ⟨rfl, Int.le_refl _⟩, nofun⟩
  · rename_i b hget
    exact hact b hget

theorem step_good (h : s.Good) (a : AvAction) : Stepped s (s.step a).1 (s.step a).2 := by
  cases a with
  | with_profile_limits => exact h.opened _ _ _ _ _ nofun
  | export_handle backing calls =>
    refine h.on_backing fun b hget => ?_
    exact h.kept hget (export_handle.spec (h.books hget) calls) nofun
  | allocate_payload backing data_length =>
    refine h.on_backing fun b hget => ?_
    exact h.allocated hget (allocate_payload.spec (h.books hget) data_length)
  | allocate_payload_bytes backing payload metadata calls =>
    refine h.on_backing fun b hget => ?_
    exact h.allocated hget (allocate_payload_bytes.spec (h.books hget) payload metadata calls)
  | apply_release backing descriptor data_id filter_state =>
    refine h.on_backing fun b hget => ?_
    exact h.kept hget (apply_release.spec (h.books hget) descriptor data_id filter_state) nofun
  | discard_undelivered_data_id backing data_id =>
    refine h.on_backing fun b hget => ?_
    exact h.kept hget (release_data_id.spec (h.books hget) data_id) nofun
  | drop backing => exact h.on_backing fun b hget => h.dropped hget

/-! ## The law -/

variable (limit_bytes : Nat)

/-- A service with no backing yet. -/
def fresh (limit_fits : limit_bytes ≤ USIZE_MAX) : AvService :=
  { shared := { runtime_budget := .new limit_bytes limit_fits } }

/-- The accounts are exact in the state `s`, and at the action `a` behind it. -/
structure Exact (limit_bytes : Nat) (s : AvService) (a : AvAction) : Prop where
  /-- The used bytes are those that the live backings have reserved. -/
  used : s.shared.runtime_budget.used_bytes = s.backings.total liveBytes
  within : s.shared.runtime_budget.used_bytes ≤ limit_bytes
  /-- The live payloads of a shared buffer do not overlap. -/
  apart : ∀ b ∈ s.backings.values, b.SlotsDisjoint
  /-- An allocation that delivers nothing leaves the ledgers and the budget. -/
  failed : ∀ result, (s.step a).2 = .allocated result →
    (∀ event, result ≠ .ok (.Delivered event)) → (s.step a).1 = s

/-- The data ids so far: positive, each larger than those before it, and all issued. -/
structure Increasing (ids : List Int) (issued : Int) : Prop where
  bounded : ∀ data_id ∈ ids, 0 < data_id ∧ data_id ≤ issued
  increasing : ids.Pairwise (· < ·)

theorem Stepped.increasing {t : AvService} (hstep : Stepped s t ans) (h : s.Good) {ids : List Int}
    (hids : Increasing ids s.shared.data_id_allocator.issued_high_watermark) :
    Increasing (ids ++ handed ans) t.shared.data_id_allocator.issued_high_watermark := by
  rcases hstep.issued with ⟨hnone, hgrows⟩ | ⟨hone, hgrows⟩
  · rw [hnone, append_nil]
    refine ⟨fun data_id hid => ?_, hids.increasing⟩
    exact ⟨(hids.bounded data_id hid).1, Int.le_trans (hids.bounded data_id hid).2 hgrows⟩
  · rw [hone]
    refine ⟨fun data_id hid => ?_, ?_⟩
    · rcases mem_append.mp hid with hid | hid
      · obtain ⟨hpos, hle⟩ := hids.bounded data_id hid
        exact ⟨hpos, by omega⟩
      · have hissued := h.issued
        rw [mem_singleton.mp hid]
        exact ⟨by omega, Int.le_refl _⟩
    · refine pairwise_append.mpr ⟨hids.increasing, pairwise_singleton _ _, ?_⟩
      intro x hx y hy
      rw [mem_singleton.mp hy]
      exact Int.lt_of_le_of_lt (hids.bounded x hx).2 hgrows

theorem run_good (limit_fits : limit_bytes ≤ USIZE_MAX) (actions : List AvAction) :
    (run step (fresh limit_bytes limit_fits) actions).1.Good ∧
      (run step (fresh limit_bytes limit_fits) actions).1.shared.runtime_budget.limit_bytes =
        limit_bytes ∧
      Increasing ((run step (fresh limit_bytes limit_fits) actions).2.map handed).flatten
        (run step (fresh limit_bytes limit_fits)
          actions).1.shared.data_id_allocator.issued_high_watermark := by
  refine run_history (P := fun (t : AvService) _ (os : List AvAnswer) =>
    t.Good ∧ t.shared.runtime_budget.limit_bytes = limit_bytes ∧
      Increasing (os.map handed).flatten t.shared.data_id_allocator.issued_high_watermark) _ ?_
        ?_ actions
  · exact ⟨⟨rfl, Nat.zero_le _, rfl, Int.le_refl _, nofun⟩, rfl, nofun, List.Pairwise.nil⟩
  · rintro t is os a ⟨hgood, hlimit, hids⟩
    have hstep := step_good hgood a
    refine ⟨hstep.good, hstep.limit.trans hlimit, ?_⟩
    have hnext := hstep.increasing hgood hids
    simpa using hnext

/-- Over every order of calls on any number of backings, and whatever the system calls answer, the
accounts of AV memory are exact, and the data ids that are handed out are positive and rise. -/
theorem av_memory_is_accounted_exactly (limit_bytes : Nat) (limit_fits : limit_bytes ≤ USIZE_MAX)
    (actions : List AvAction) :
    (∀ data_id ∈ ((run step (fresh limit_bytes limit_fits) actions).2.map handed).flatten,
        0 < data_id) ∧
      ((run step (fresh limit_bytes limit_fits) actions).2.map handed).flatten.Pairwise (· < ·) ∧
      ∀ a, Exact limit_bytes (run step (fresh limit_bytes limit_fits) actions).1 a := by
  obtain ⟨hgood, hlimit, hids⟩ := run_good limit_bytes limit_fits actions
  refine ⟨fun data_id hid => (hids.bounded data_id hid).1, hids.increasing, fun a => ?_⟩
  refine ⟨hgood.used, Nat.le_trans hgood.within (Nat.le_of_eq hlimit), ?_, ?_⟩
  · intro b hb
    exact (hgood.sound b hb).slots_disjoint
  · exact (step_good hgood a).failed

/-- Two payloads in the slots of a backing, one that cannot be mapped between them, and one in a
buffer of its own. The second one is released. -/
def a_short_run : List AvAction :=
  let calls : AvSystemCalls := ⟨true, true, true, some ⟨1, 7, 5⟩, true⟩
  [.with_profile_limits 2 4 8 4 32, .export_handle 0 calls,
    .allocate_payload_bytes 0 [1, 2, 3] {} calls,
    .allocate_payload_bytes 0 [1, 2] {} { calls with maps := false },
    .allocate_payload_bytes 0 [1, 2, 3, 4] {} calls,
    .allocate_payload_bytes 0 [1, 2, 3, 4, 5] {} calls,
    .apply_release 0 .Empty 2 .OpenAv]

/-- At the end of the short run 8 bytes are used, by the payloads 1 and 3, and the accounts are
exact at the drop of the backing. -/
theorem the_short_run_is_accounted_exactly :
    (run step (fresh 16 (by decide)) a_short_run).1.shared.runtime_budget.used_bytes = 8 ∧
      ((run step (fresh 16 (by decide)) a_short_run).2.map handed).flatten = [1, 2, 3] ∧
      Exact 16 (run step (fresh 16 (by decide)) a_short_run).1 (.drop 0) :=
  ⟨by decide, by decide, (av_memory_is_accounted_exactly 16 (by decide) a_short_run).2.2 (.drop 0)⟩

end AvService

end tuner_hal2_demux.av
