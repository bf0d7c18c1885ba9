-- The backend over every sequence of calls and restarts. The file is always what
-- the messages made that came into it, and their numbers only grow. Once the
-- backend gives up, no slot shows a key until the process is started again.
import TvStack.YakisobaBackend

open List Machines Words

namespace maleicacid.cas

open YakisobaBackend

variable {κ : Type} {lib : Yakisoba κ} {s : YakisobaBackend κ}
  {history : List Applied} {state : YakisobaPersistentState} {registry : KeyRegistry}
  {payload : Bytes} {decoded : Decoded} {updates : List Update}

/-! ## The messages that came into the file -/

/-- The last one for a group. -/
def last_of (history : List Applied) (g : Fin 6) : Option Applied :=
  (history.filter (·.group = g)).getLast?

/-- For each group the numbers grow. -/
def Ordered (history : List Applied) : Prop :=
  history.Pairwise fun a b => a.group = b.group → a.number < b.number

section History

variable {history : List Applied} {a : Applied} {g : Fin 6}

theorem last_of_concat (history : List Applied) (a : Applied) (g : Fin 6) :
    last_of (history ++ [a]) g = if a.group = g then some a else last_of history g := by
  unfold last_of
  by_cases hgroup : a.group = g <;> simp [hgroup]

theorem mem_of_last_of (h : last_of history g = some a) : a ∈ history ∧ a.group = g := by
  have hmem := mem_of_getLast? h
  simpa using hmem

/-- No message has a greater number than the last one of its group. -/
theorem Ordered.le_last (h : Ordered history) (ha : a ∈ history) :
    ∃ b, last_of history a.group = some b ∧ a.number ≤ b.number := by
  induction history using List.reverseRecOn with
  | nil => contradiction
  | append_singleton earlier last ih =>
    obtain ⟨hearlier, -, hlast⟩ := pairwise_append.mp h
    rw [last_of_concat]
    rcases mem_append.mp ha with ha | ha
    · split_ifs with hgroup
      · exact ⟨last, rfl, UInt16.le_of_lt (hlast a ha last (mem_singleton_self _) hgroup.symm)⟩
      · exact ih hearlier ha
    · cases mem_singleton.mp ha
      exact ⟨a, if_pos rfl, UInt16.le_refl _⟩

theorem Ordered.concat (h : Ordered history)
    (hnew : ∀ b, last_of history a.group = some b → b.number < a.number) :
    Ordered (history ++ [a]) := by
  refine pairwise_append.mpr ⟨h, pairwise_singleton _ _, ?_⟩
  intro old hold new hmem hgroup
  cases mem_singleton.mp hmem
  obtain ⟨b, hlast, hle⟩ := h.le_last hold
  exact UInt16.lt_of_le_of_lt hle (hnew b (hgroup ▸ hlast))

/-- The number that the messages have brought a group to. -/
def number_of (history : List Applied) (g : Fin 6) : UInt16 :=
  ((last_of history g).map (·.number)).getD 0

theorem number_of_mono {later : List Applied} (h : Ordered later) (hle : history <+: later) :
    number_of history g ≤ number_of later g := by
  unfold number_of
  cases hlast : last_of history g with
  | none => exact UInt16.zero_le
  | some a =>
    obtain ⟨ha, hgroup⟩ := mem_of_last_of hlast
    obtain ⟨b, hb, hnumber⟩ := h.le_last (hle.subset ha)
    rw [hgroup] at hb
    rw [hb]
    exact hnumber

end History

/-! ## The invariant -/

/-- A message that a card with this id takes for an update of its group with its number. -/
structure Genuine (lib : Yakisoba κ) (card : CardId) (a : Applied) : Prop where
  valid : valid_message ⟨some a.message, false⟩ = true
  decodes : ∃ decoded, decode_message lib card a.message false = .ok decoded ∧
    decoded.group = a.group ∧ decoded.number = a.number

/-- A state is what the messages made. -/
structure Agrees (lib : Yakisoba κ) (history : List Applied) (state : YakisobaPersistentState) :
    Prop where
  none : ∀ g, last_of history g = none →
    (state.groups g).updated = false ∧ (state.groups g).number = 0
  some : ∀ g a, last_of history g = some a →
    (state.groups g).updated = true ∧ (state.groups g).number = a.number ∧
      (state.groups g).lastMessage = a.message ∧ Genuine lib state.cardId a

/-- No slot shows a key. -/
def Dark (registry : KeyRegistry) : Prop :=
  ∀ id slot, registry.heap.get id = some slot → slot.shared.valid = false

/-- What holds of the file and the registry, whatever the process does. -/
structure Stands (lib : Yakisoba κ) (s : YakisobaBackend κ) : Prop where
  registry : RegistryFits s.registry
  ordered : Ordered s.history
  file : s.file = none ∧ s.history = [] ∨ ∃ state bytes, serialize state = some bytes ∧
    s.file = some bytes ∧ s.history ≠ [] ∧ Agrees lib s.history state

structure BackendFits (lib : Yakisoba κ) (s : YakisobaBackend κ) : Prop extends Stands lib s where
  dark : s.revoked = true → Dark s.registry
  trouble : s.trouble = true → s.revoked = true
  fresh : s.initialized = false → s.revoked = false → s.state.groups = fun _ => {}
  ready : s.initialized = true → s.revoked = false →
    s.state.cardId = s.card ∧ Agrees lib s.history s.state

theorem Agrees.number_eq (h : Agrees lib history state) (g : Fin 6) :
    (state.groups g).number = number_of history g := by
  unfold number_of
  cases hlast : last_of history g with
  | none => exact (h.none g hlast).2
  | some a => exact (h.some g a hlast).2.1

/-! ## A registry without keys -/

theorem Dark.keep {registry' : KeyRegistry} (h : Dark registry)
    (hkept : Kept (fun _ => false) registry registry') : Dark registry' := by
  intro id slot' hslot'
  obtain ⟨slot, hslot, hfollows⟩ := hkept.back hslot'
  exact hfollows.valid rfl (h id slot hslot)

theorem revokeAll_dark (h : RegistryFits registry) :
    RegistryFits registry.revokeAll ∧ Dark registry.revokeAll := by
  have hcall : (registry.call .RevokeAll).1 = registry.revokeAll := by
    simp only [KeyRegistry.call]
  have hfits := (call_fits h .RevokeAll).1
  have hkept := call_keeps registry .RevokeAll (by simp)
  rw [hcall] at hfits
  refine ⟨hfits, ?_⟩
  intro id slot' hslot'
  obtain ⟨slot, hslot, hfollows⟩ := hkept.back hslot'
  cases howned : slot.owned with
  | false => exact (hfits.fits hslot').emptied (.inr (hfollows.owned howned))
  | true =>
    obtain ⟨closed, hclosed, hlive⟩ := revokeAll_closes h (held_eq_some.mpr ⟨hslot, howned⟩)
    rw [hcall, hslot'] at hclosed
    cases hclosed
    exact (hfits.fits hslot').emptied (.inl hlive)

theorem SessionCall.updates_none (call : SessionCall) (id : Nat) :
    call.to_registry.updates id = false := by
  cases call <;> rfl

/-- A slot that a session opens shows no key, and no call of a session brings one. -/
theorem Dark.session (h : Dark registry) (call : SessionCall) :
    Dark (registry.call call.to_registry).1 := by
  have hupdates : call.to_registry.updates = fun _ => false := funext call.updates_none
  by_cases hopen : ∃ draws, call.to_registry = .Open draws
  · obtain ⟨draws, hcall⟩ := hopen
    rw [hcall]
    rcases open_slot.spec registry draws with hsame | ⟨empty, token, -, -, -, heq⟩
    · simp only [KeyRegistry.call, hsame]
      exact h
    · simp only [KeyRegistry.call, heq]
      intro id slot hslot
      rcases opened_cases hslot with ⟨-, rfl⟩ | hold
      · rfl
      · exact h id slot hold
  · exact h.keep (hupdates ▸ call_keeps registry _ (not_exists.mp hopen))

/-! ## The steps of a call -/

/-- Giving up is safe in any state that stands. -/
theorem failClosed_fits (h : Stands lib s) : BackendFits lib s.failClosed.1 := by
  obtain ⟨hregistry, hdark⟩ := revokeAll_dark h.registry
  refine ⟨⟨?_, h.ordered, h.file⟩, fun _ => ?_, fun _ => rfl, nofun, nofun⟩
  all_goals simp only [failClosed]
  · exact hregistry
  · exact hdark

/-- The backend in operation. -/
structure Runs (lib : Yakisoba κ) (s : YakisobaBackend κ) : Prop extends BackendFits lib s where
  initialized : s.initialized = true
  live : s.revoked = false

/-- What a function of the backend does: it keeps the invariant, the messages in the file stay, and
a result of Ok is that of a backend in operation. -/
structure Moves (lib : Yakisoba κ) (s : YakisobaBackend κ) (r : YakisobaBackend κ × Result) :
    Prop where
  fits : BackendFits lib r.1
  history : s.history <+: r.1.history
  running : r.2 = .Ok → r.1.initialized = true ∧ r.1.revoked = false

theorem Moves.failClosed (h : Stands lib s) {start : YakisobaBackend κ}
    (hhistory : start.history <+: s.history) : Moves lib start s.failClosed :=
  ⟨failClosed_fits h, hhistory, nofun⟩

theorem Agrees.settled (h : Agrees lib history state) : Agrees lib history state.settled :=
  ⟨h.none, h.some⟩

theorem restorePersistentState.spec (h : Stands lib s) (hfresh : s.state.groups = fun _ => {})
    (readable : Bool) (cardId : CardId) :
    (∃ t, s.restorePersistentState lib readable cardId = t.failClosed ∧ Stands lib t ∧
      t.history = s.history) ∨
    ∃ keys state, s.restorePersistentState lib readable cardId = ({ s with keys, state }, .Ok) ∧
      state.cardId = cardId ∧ Agrees lib s.history state := by
  unfold restorePersistentState
  rcases h.file with ⟨hnone, hhistory⟩ | ⟨state, bytes, hbytes, hfile, -, hagrees⟩
  · -- there is no file, so no message has come into it
    rw [hnone]
    cases readable with
    | false => exact .inl ⟨s, rfl, h, rfl⟩
    | true =>
      refine .inr ⟨s.keys, _, rfl, rfl, ?_⟩
      dsimp only
      rw [hhistory, hfresh]
      exact ⟨fun _ _ => ⟨rfl, rfl⟩, nofun⟩
  · have hspec := load.spec hbytes readable cardId {}
    rw [← hfile] at hspec
    rw [hspec]
    split
    · rename_i hload
      split at hload <;> cases hload
    · rename_i restored hload
      split_ifs at hload with hcard
      · cases hload
        split
        · exact .inl ⟨_, rfl, ⟨h.registry, h.ordered, h.file⟩, rfl⟩
        · exact .inr ⟨_, _, rfl, hcard.2, hagrees.settled⟩
      · cases hload
    · exact .inl ⟨s, rfl, h, rfl⟩

theorem initialize_backend_moves (h : BackendFits lib s) (env : Surroundings) :
    Moves lib s (s.initialize_backend lib env) ∧
      (s.initialize_backend lib env).1.history = s.history := by
  have hstays {result : Result} (hok : result = .Ok → s.initialized = true ∧ s.revoked = false) :
      Moves lib s (s, result) ∧ s.history = s.history :=
    ⟨⟨h, prefix_refl _, hok⟩, rfl⟩
  unfold initialize_backend
  split
  · exact hstays nofun
  rename_i hrevoked
  rw [Bool.not_eq_true] at hrevoked
  split
  · rename_i hinit
    exact hstays fun _ => ⟨hinit, hrevoked⟩
  rename_i hinit
  rw [Bool.not_eq_true] at hinit
  split
  · exact hstays nofun
  rename_i info _
  split
  · exact hstays nofun
  split
  · exact hstays nofun
  generalize lib.read_input s.keys info.content = input
  obtain ⟨card, keys⟩ := input
  dsimp only
  have hstands : Stands lib { s with card, keys } := ⟨h.registry, h.ordered, h.file⟩
  split
  · exact ⟨Moves.failClosed hstands (prefix_refl s.history), rfl⟩
  rcases restorePersistentState.spec hstands (h.fresh hinit hrevoked) env.readable card
    with ⟨t, heq, ht, hhistory⟩ | ⟨keys, state, heq, hcard, hagrees⟩
  · simp only [heq]
    exact ⟨Moves.failClosed ht (hhistory ▸ prefix_refl _), hhistory⟩
  · simp only [heq]
    refine ⟨⟨⟨⟨h.registry, h.ordered, h.file⟩, ?_, h.trouble, nofun, ?_⟩,
      prefix_refl _, fun _ => ⟨rfl, hrevoked⟩⟩, trivial⟩
    · exact fun hdark => absurd hdark (Bool.eq_false_iff.mp hrevoked)
    · exact fun _ _ => ⟨hcard, hagrees⟩

/-- Only a message that is not individual is an update. -/
theorem decode_message_individual {card : CardId} {individual : Bool}
    (h : decode_message lib card payload individual = .ok decoded) : individual = false := by
  cases individual with
  | false => rfl
  | true =>
    unfold decode_message at h
    dsimp only at h
    repeat' split at h
    all_goals contradiction

theorem prepare.spec {individual : Bool}
    (h : s.prepare lib payload individual = .ok (decoded, updates)) :
    decode_message lib s.card payload individual = .ok decoded ∧
      ((s.state.groups decoded.group).updated = true →
        (s.state.groups decoded.group).number < decoded.number) := by
  unfold prepare at h
  split at h
  · contradiction
  rename_i found hfound
  dsimp only at h
  split at h
  · contradiction
  rename_i hnew
  split at h
  · contradiction
  cases h
  refine ⟨hfound, fun hupdated => ?_⟩
  rw [hupdated, Bool.true_and, decide_eq_true_eq] at hnew
  exact UInt16.not_le.mp hnew

/-- The state that a genuine message leads to is what the messages made, with this one. -/
theorem next_state_agrees (h : Agrees lib history state) {a : Applied}
    (hgroup : a.group = decoded.group) (hnumber : a.number = decoded.number)
    (hgenuine : Genuine lib state.cardId a) (updates : List Update) :
    Agrees lib (history ++ [a]) (next_state state a.message decoded updates) := by
  refine ⟨fun g hlast => ?_, fun g b hlast => ?_⟩ <;> rw [last_of_concat] at hlast
  · split at hlast
    · contradiction
    · rename_i hother
      simp only [next_state, Function.update_of_ne (hgroup ▸ Ne.symm hother)]
      exact h.none g hlast
  · split at hlast
    · rename_i hsame
      cases hlast
      rw [← hsame, hgroup]
      simp only [next_state, Function.update_self]
      exact ⟨trivial, hnumber.symm, trivial, hgenuine⟩
    · rename_i hother
      simp only [next_state, Function.update_of_ne (hgroup ▸ Ne.symm hother)]
      exact h.some g b hlast

theorem settle_moves (h : Runs lib s) (hvalid : valid_message ⟨some payload, false⟩ = true)
    (hprepared : s.prepare lib payload false = .ok (decoded, updates)) (calls : CommitCalls) :
    Moves lib s (s.settle lib calls payload decoded updates) := by
  obtain ⟨hdecodes, hnew⟩ := prepare.spec hprepared
  obtain ⟨hcard, hagrees⟩ := h.ready h.initialized h.live
  -- whatever was registered, the message comes into the file as the next one of its group
  have hgrows (registered : List UInt8) :
      Ordered (s.history ++ [⟨decoded.group, decoded.number, payload, registered⟩]) ∧
        Agrees lib (s.history ++ [⟨decoded.group, decoded.number, payload, registered⟩])
          (next_state s.state payload decoded updates) := by
    refine ⟨h.ordered.concat fun b hb => ?_, next_state_agrees hagrees rfl rfl ?_ updates⟩
    · obtain ⟨hupdated, hnumber, -⟩ := hagrees.some decoded.group b hb
      exact hnumber ▸ hnew hupdated
    · exact ⟨hvalid, decoded, hcard ▸ hdecodes, rfl, rfl⟩
  unfold settle
  rcases commit.cases s.file calls (next_state s.state payload decoded updates)
    with hcommit | ⟨bytes, hbytes, hcommit | hcommit⟩
  · simp only [hcommit]
    exact ⟨h.toBackendFits, prefix_refl _, nofun⟩
  · simp only [hcommit]
    generalize register_all lib (byte decoded.plain.val 8) updates s.keys = done
    obtain ⟨keys, registered, accepted⟩ := done
    obtain ⟨hordered, hnext⟩ := hgrows registered
    split
    · refine Moves.failClosed ?_ (prefix_append _ _)
      exact ⟨h.registry, hordered, .inr ⟨_, bytes, hbytes, rfl, by simp, hnext⟩⟩
    have hregistry := (call_fits h.registry (.InvalidateGroup (byte decoded.plain.val 8))).1
    simp only [KeyRegistry.call] at hregistry
    refine ⟨⟨⟨?_, hordered, .inr ⟨_, bytes, hbytes, rfl, by simp, hnext⟩⟩, ?_, h.trouble, ?_, ?_⟩,
      prefix_append _ _, fun _ => ⟨h.initialized, h.live⟩⟩
    · dsimp only
      exact hregistry
    · exact fun hdark => absurd hdark (Bool.eq_false_iff.mp h.live)
    · exact fun hfresh => absurd h.initialized (Bool.eq_false_iff.mp hfresh)
    · exact fun _ _ => ⟨hcard, hnext⟩
  · simp only [hcommit]
    obtain ⟨hordered, hnext⟩ := hgrows []
    cases calls.lasts with
    | false =>
      refine Moves.failClosed ?_ (prefix_refl _)
      exact ⟨h.registry, h.ordered, h.file⟩
    | true =>
      refine Moves.failClosed ?_ (prefix_append _ _)
      exact ⟨h.registry, hordered, .inr ⟨_, bytes, hbytes, rfl, by simp, hnext⟩⟩

theorem applyMessage_moves (h : Runs lib s) {message : EmmMessage}
    (hvalid : valid_message message = true) (calls : CommitCalls) :
    Moves lib s (s.applyMessage lib calls message) := by
  obtain ⟨payload, individual⟩ := message
  cases payload with
  | none => contradiction
  | some payload =>
    simp only [applyMessage, Option.getD_some]
    cases hprepared : s.prepare lib payload individual with
    | error result => exact ⟨h.toBackendFits, prefix_refl _, fun _ => ⟨h.initialized, h.live⟩⟩
    | ok prepared =>
      obtain rfl := decode_message_individual (prepare.spec hprepared).1
      exact settle_moves h hvalid hprepared calls

theorem apply_messages_moves (env : Surroundings) (messages : List EmmMessage) (i : Nat)
    (h : Runs lib s) (hvalid : ∀ message ∈ messages, valid_message message = true) :
    Moves lib s (apply_messages lib env s i messages) := by
  induction messages generalizing s i with
  | nil => exact ⟨h.toBackendFits, prefix_refl _, fun _ => ⟨h.initialized, h.live⟩⟩
  | cons message messages ih =>
    have hmoves := applyMessage_moves h (hvalid _ mem_cons_self) (env.commits i)
    unfold apply_messages
    split
    · rename_i t happly
      rw [happly] at hmoves
      obtain ⟨hinit, hlive⟩ := hmoves.running rfl
      have hrest := ih (i + 1) ⟨hmoves.fits, hinit, hlive⟩
        fun m hm => hvalid m (mem_cons_of_mem _ hm)
      exact ⟨hrest.fits, hmoves.history.trans hrest.history, hrest.running⟩
    · exact hmoves

theorem processEmm_moves (h : BackendFits lib s) (env : Surroundings) (messages : List EmmMessage) :
    Moves lib s (s.processEmm lib env messages) := by
  have hrefused {result : Result} (hne : result ≠ .Ok) : Moves lib s (s, result) :=
    ⟨h, prefix_refl _, fun hok => absurd hok hne⟩
  have hstart := (initialize_backend_moves h env).1
  unfold processEmm
  split
  · exact hrefused nofun
  split
  · exact hrefused nofun
  rename_i hvalid
  split
  · exact hrefused nofun
  split
  · rename_i t heq
    rw [heq] at hstart
    obtain ⟨hinit, hrevoked⟩ := hstart.running rfl
    have hmoves := apply_messages_moves env messages 0 ⟨hstart.fits, hinit, hrevoked⟩
      (by simpa using hvalid)
    exact ⟨hmoves.fits, hstart.history.trans hmoves.history, hmoves.running⟩
  · exact hstart

theorem processEcm_moves (h : BackendFits lib s) (env : Surroundings) (slot : Option Nat)
    (payload : View) : Moves lib s (s.processEcm lib env slot payload) := by
  have hrefused {result : Result} (hne : result ≠ .Ok) : Moves lib s (s, result) :=
    ⟨h, prefix_refl _, fun hok => absurd hok hne⟩
  have hstart := (initialize_backend_moves h env).1
  unfold processEcm
  split
  · rename_i id payload
    split
    · exact hrefused nofun
    split
    · exact hrefused nofun
    split
    · rename_i t heq
      rw [heq] at hstart
      obtain ⟨hinit, hrevoked⟩ := hstart.running rfl
      have hstays (result : Result) : Moves lib s (t, result) :=
        ⟨hstart.fits, hstart.history, fun _ => ⟨hinit, hrevoked⟩⟩
      split
      · exact hstays _
      dsimp only
      split
      · -- the keys go into the slot of a backend in operation
        have hregistry := (call_fits hstart.fits.registry
          (.Update id (lib.bcas_decodeECM t.keys payload).2 (byte payload 1))).1
        refine ⟨⟨⟨hregistry, hstart.fits.ordered, hstart.fits.file⟩, ?_,
          hstart.fits.trouble, hstart.fits.fresh, hstart.fits.ready⟩, hstart.history,
          fun _ => ⟨hinit, hrevoked⟩⟩
        exact fun hdark => absurd hdark (Bool.eq_false_iff.mp hrevoked)
      · exact hstays _
    · exact hstart
  · exact hrefused nofun

/-! ## Runs -/

/-- The backend behind calls, from the start of a process that finds no file. -/
def backend_after (lib : Yakisoba κ) (s : YakisobaBackend κ) (calls : List (BackendCall κ)) :
    YakisobaBackend κ :=
  (run (call lib) s calls).1

theorem start_fits (h : Stands lib s) (keys : κ) :
    BackendFits lib { keys, file := s.file, history := s.history } :=
  ⟨⟨initial_fits, h.ordered, h.file⟩, nofun, nofun, fun _ _ => rfl, nofun⟩

theorem backend_call_fits (h : BackendFits lib s) (call : BackendCall κ) :
    BackendFits lib (s.call lib call).1 ∧ s.history <+: (s.call lib call).1.history := by
  cases call with
  | ProcessEcm env slot payload =>
    have hmoves := processEcm_moves h env slot payload
    exact ⟨hmoves.fits, hmoves.history⟩
  | ProcessEmm env messages =>
    have hmoves := processEmm_moves h env messages
    exact ⟨hmoves.fits, hmoves.history⟩
  | Bind env token readerFd => exact ⟨h, prefix_refl _⟩
  | Session call =>
    have hregistry := (call_fits h.registry call.to_registry).1
    exact ⟨⟨⟨hregistry, h.ordered, h.file⟩, fun hrevoked => (h.dark hrevoked).session call,
      h.trouble, h.fresh, h.ready⟩, prefix_refl _⟩
  | Restart keys => exact ⟨start_fits h.toStands keys, prefix_refl _⟩

theorem backend_run_fits (h : BackendFits lib s) (calls : List (BackendCall κ)) :
    BackendFits lib (backend_after lib s calls) ∧
      s.history <+: (backend_after lib s calls).history := by
  refine run_keeps (P := fun t => BackendFits lib t ∧ s.history <+: t.history) ?_ s calls
    ⟨h, prefix_refl _⟩
  rintro t call ⟨hfits, hhistory⟩
  obtain ⟨hfits', hhistory'⟩ := backend_call_fits hfits call
  exact ⟨hfits', hhistory.trans hhistory'⟩

/-! ## The file -/

/-- A start with the card of this state finds it in the file. -/
def YakisobaBackend.Persists (s : YakisobaBackend κ) (state : YakisobaPersistentState) : Prop :=
  ∃ bytes, s.file = some bytes ∧ parse state.cardId bytes = some state

theorem Stands.agrees (h : Stands lib s) (hstate : s.Persists state) :
    Agrees lib s.history state := by
  obtain ⟨bytes, hfile, hparse⟩ := hstate
  rcases h.file with ⟨hnone, -⟩ | ⟨kept, output, houtput, hsome, -, hagrees⟩
  · rw [hnone] at hfile
    contradiction
  · rw [hsome] at hfile
    cases hfile
    rw [parse_serialize houtput] at hparse
    split at hparse
    · cases hparse
      exact hagrees.settled
    · contradiction

theorem Stands.history_ne_nil (h : Stands lib s) (hstate : s.Persists state) : s.history ≠ [] := by
  obtain ⟨bytes, hfile, -⟩ := hstate
  rcases h.file with ⟨hnone, -⟩ | ⟨-, -, -, -, hsome, -⟩
  · rw [hnone] at hfile
    contradiction
  · exact hsome

theorem Stands.persists (h : Stands lib s) (hhistory : s.history ≠ []) :
    ∃ state, s.Persists state := by
  rcases h.file with ⟨-, hnone⟩ | ⟨kept, output, houtput, hsome, -⟩
  · contradiction
  · refine ⟨kept.settled, output, hsome, ?_⟩
    rw [parse_serialize houtput]
    exact if_pos rfl

/-- The last message of a group, sent again, does nothing but what the start of the backend does. -/
theorem resent_changes_nothing (h : BackendFits lib s) {g : Fin 6} {a : Applied}
    (hlast : last_of s.history g = some a) {env : Surroundings} (hlock : env.try_lock_for = true) :
    s.processEmm lib env [⟨some a.message, false⟩] = s.initialize_backend lib env := by
  obtain ⟨hstart, hhistory⟩ := initialize_backend_moves h env
  have hvalid : valid_message ⟨some a.message, false⟩ = true := by
    obtain ⟨state, hstate⟩ := h.toStands.persists (ne_nil_of_mem (mem_of_last_of hlast).1)
    exact ((h.toStands.agrees hstate).some g a hlast).2.2.2.valid
  simp only [processEmm, cons_ne_nil, if_false, all_cons, all_nil,
    hvalid, Bool.and_true, Bool.not_true, Bool.false_eq_true, hlock]
  split
  · rename_i t heq
    rw [heq] at hstart hhistory ⊢
    obtain ⟨hinit, hrevoked⟩ := hstart.running rfl
    obtain ⟨hcard, hagrees⟩ := hstart.fits.ready hinit hrevoked
    dsimp only at hagrees
    rw [hhistory] at hagrees
    obtain ⟨hupdated, hnumber, hmessage, hgenuine⟩ := hagrees.some g a hlast
    obtain ⟨decoded, hdecodes, hgroup, hsame⟩ := hgenuine.decodes
    rw [hcard] at hdecodes
    rw [(mem_of_last_of hlast).2] at hgroup
    -- the number is that of the group, and the message is the one that was kept
    have hprepare : t.prepare lib a.message false = .error .Ok := by
      simp [prepare, hdecodes, hgroup, hsame, hupdated, hnumber, hmessage]
    simp [apply_messages, applyMessage, hprepare]
  · rfl

/-! ## A backend that has given up -/

/-- The results that are left. -/
def Refused (result : Result) : Prop := result = .Revoked ∨ result = .Busy ∨ result = .BadValue

theorem initialize_backend_revoked (h : s.revoked = true) (env : Surroundings) :
    s.initialize_backend lib env = (s, .Revoked) := by
  simp [initialize_backend, h]

theorem processEcm_revoked (lib : Yakisoba κ) (h : s.revoked = true) (env : Surroundings)
    (slot : Option Nat) (payload : View) : (s.processEcm lib env slot payload).1 = s ∧
      Refused (s.processEcm lib env slot payload).2 := by
  unfold processEcm
  rw [initialize_backend_revoked h]
  split
  · split
    · exact ⟨rfl, .inr (.inr rfl)⟩
    · split
      · exact ⟨rfl, .inr (.inl rfl)⟩
      · exact ⟨rfl, .inl rfl⟩
  · exact ⟨rfl, .inr (.inr rfl)⟩

theorem processEmm_revoked (lib : Yakisoba κ) (h : s.revoked = true) (env : Surroundings)
    (messages : List EmmMessage) : (s.processEmm lib env messages).1 = s ∧
      Refused (s.processEmm lib env messages).2 := by
  unfold processEmm
  rw [initialize_backend_revoked h]
  split
  · exact ⟨rfl, .inr (.inr rfl)⟩
  split
  · exact ⟨rfl, .inr (.inr rfl)⟩
  split
  · exact ⟨rfl, .inr (.inl rfl)⟩
  · exact ⟨rfl, .inl rfl⟩

theorem bind_revoked (h : s.revoked = true) (env : Surroundings) (token : Token)
    (readerFd : Bool) : Refused (s.bind env token readerFd).1 := by
  unfold YakisobaBackend.bind
  split
  · exact .inr (.inr rfl)
  split
  · exact .inr (.inl rfl)
  · exact .inl rfl

/-- Until the next start, only the calls of the sessions change anything. -/
theorem revoked_run (lib : Yakisoba κ) (h : s.revoked = true) {calls : List (BackendCall κ)}
    (hprocess : ∀ call ∈ calls, ∀ keys, call ≠ .Restart keys) :
    ∃ sessions : List SessionCall, backend_after lib s calls =
      { s with registry := after_calls s.registry (sessions.map (·.to_registry)) } := by
  induction calls generalizing s with
  | nil => exact ⟨[], rfl⟩
  | cons call calls ih =>
    have hrest := fun c hc => hprocess c (mem_cons_of_mem call hc)
    have hsame (heq : (s.call lib call).1 = s) : backend_after lib s (call :: calls) =
        backend_after lib s calls := by
      simp only [backend_after, run_cons, heq]
    cases call with
    | ProcessEcm env slot payload =>
      rw [hsame (processEcm_revoked lib h env slot payload).1]
      exact ih h hrest
    | ProcessEmm env messages =>
      rw [hsame (processEmm_revoked lib h env messages).1]
      exact ih h hrest
    | Bind env token readerFd =>
      exact ih h hrest
    | Session call =>
      obtain ⟨sessions, heq⟩ :=
        ih (s := { s with registry := (s.registry.call call.to_registry).1 }) h hrest
      refine ⟨call :: sessions, ?_⟩
      exact heq
    | Restart keys => exact absurd rfl (hprocess _ mem_cons_self keys)

/-- From here to there no reader gets a key from the slot. -/
def NoKeyBetween (s s' : YakisobaBackend κ) (id : Nat) : Prop :=
  ∃ more, stores_of s'.registry id = stores_of s.registry id ++ more ∧
    GivesNoKey (stores_of s.registry id) more

theorem revoked_gives_no_key (h : BackendFits lib s) (hrevoked : s.revoked = true)
    {calls : List (BackendCall κ)} (hprocess : ∀ call ∈ calls, ∀ keys, call ≠ .Restart keys)
    {id : Nat} {slot : Slot} (hslot : s.registry.heap.get id = some slot) :
    NoKeyBetween s (backend_after lib s calls) id := by
  obtain ⟨sessions, heq⟩ := revoked_run lib hrevoked hprocess
  have hquiet : (sessions.map (·.to_registry)).any (·.updates id) = false := by
    simp [SessionCall.updates_none]
  rw [heq]
  exact key_gone h.registry hslot (h.dark hrevoked id slot hslot) (.inl hquiet)

/-! ## The law -/

/-- Over every sequence of calls and restarts, the numbers in the file never go down, and the
messages that come into it, among them all that register keys, have ever greater numbers. The last
message of a group, sent again, changes nothing, and neither does a commit that reports Unchanged.
After a commit of unknown outcome or a `Register` that failed, the process gives no key. -/
theorem replay_safe_and_fail_closed (lib : Yakisoba κ) (keys : κ)
    (calls later : List (BackendCall κ)) :
    let s := backend_after lib { keys } calls
    let s' := backend_after lib s later
    (∀ state, s.Persists state → (∃ state', s'.Persists state') ∧
      ∀ state', s'.Persists state' → ∀ g, (state.groups g).number ≤ (state'.groups g).number) ∧
    s.history.Pairwise (fun a b => a.group = b.group → a.number < b.number) ∧
    (∀ g a env, last_of s.history g = some a → env.try_lock_for = true →
      s.processEmm lib env [⟨some a.message, false⟩] = s.initialize_backend lib env ∧
      (s.initialized = true → s.revoked = false →
        s.processEmm lib env [⟨some a.message, false⟩] = (s, .Ok))) ∧
    (∀ message payload decoded updates commits, message.payload = some payload →
      s.prepare lib payload message.individual = .ok (decoded, updates) →
      (commit s.file commits (next_state s.state payload decoded updates)).2 = .Unchanged →
      s.applyMessage lib commits message = (s, .Unknown)) ∧
    (s.trouble = true → (∀ call ∈ later, ∀ keys, call ≠ .Restart keys) →
      (∀ env slot payload, Refused (s'.processEcm lib env slot payload).2) ∧
      (∀ env messages, Refused (s'.processEmm lib env messages).2) ∧
      (∀ env token readerFd, Refused (s'.bind env token readerFd).1) ∧
      ∀ id slot, s.registry.heap.get id = some slot → NoKeyBetween s s' id) := by
  intro s s'
  have hfits : BackendFits lib s :=
    (backend_run_fits (start_fits (s := { keys }) ⟨initial_fits, .nil, .inl ⟨rfl, rfl⟩⟩ keys)
      calls).1
  obtain ⟨hfits', hhistory⟩ : BackendFits lib s' ∧ s.history <+: s'.history :=
    backend_run_fits hfits later
  refine ⟨?_, hfits.ordered, ?_, ?_, ?_⟩
  · intro state hstate
    have hagrees := hfits.toStands.agrees hstate
    refine ⟨?_, fun state' hstate' g => ?_⟩
    · have hsome := hfits.toStands.history_ne_nil hstate
      exact hfits'.toStands.persists fun hnone => hsome (prefix_nil.mp (hnone ▸ hhistory))
    · rw [hagrees.number_eq, (hfits'.toStands.agrees hstate').number_eq]
      exact number_of_mono hfits'.ordered hhistory
  · intro g a env hlast hlock
    have hresent := resent_changes_nothing hfits hlast hlock
    refine ⟨hresent, fun hinit hrevoked => ?_⟩
    rw [hresent]
    simp [initialize_backend, hinit, hrevoked]
  · intro message payload decoded updates commits hpayload hprepared hcommit
    simp only [applyMessage, hpayload, Option.getD_some, hprepared, settle]
    rcases commit.cases s.file commits (next_state s.state payload decoded updates)
      with heq | ⟨bytes, -, heq | heq⟩
    · simp only [heq]
    · simp [heq] at hcommit
    · simp [heq] at hcommit
  · intro htrouble hprocess
    have hrevoked := hfits.trouble htrouble
    obtain ⟨sessions, heq⟩ := revoked_run lib hrevoked hprocess
    have hrevoked' : s'.revoked = true := (congrArg (·.revoked) heq).trans hrevoked
    exact ⟨fun env slot payload => (processEcm_revoked lib hrevoked' env slot payload).2,
      fun env messages => (processEmm_revoked lib hrevoked' env messages).2,
      bind_revoked hrevoked', fun id slot => revoked_gives_no_key hfits hrevoked hprocess⟩

namespace OneMessage

def card : CardId := ⟨[1, 2, 3, 4, 5, 6], rfl⟩

/-- An update of the first group with the number 7, and one key. -/
def plain : Block 256 := block_at 256 (card.val ++ [21, 0, 0x02, 0, 7, 0, 0, 0x10, 9, 31]) 0

def message : EmmMessage := ⟨some (card.val ++ 21 :: List.replicate 21 0), false⟩

/-- A library that takes every key and has none. -/
def library : Yakisoba Unit where
  read_input _ _ := (card, ())
  GetKey _ _ _ := none
  Register _ _ _ _ := ((), true)
  bcas_decodeECM _ _ := (0, OneSlot.keys)
  bcas_decodeEMM _ _ _ := (0, plain)

/-- The directory is not synced behind a commit. -/
def env : Surroundings where
  try_lock_for := true
  credential := some { regular := true, st_size := 1, content := [0] }
  fmemopen := true
  readable := true
  commits _ := { fsync_parent := false }
  readerFd := 3

def calls : List (BackendCall Unit) :=
  [.Session (.Open [⟨some OneSlot.token, true⟩]), .ProcessEmm env [message]]

theorem the_unknown_commit_revokes :
    let s := backend_after library { keys := () } calls
    s.trouble = true ∧ (s.registry.heap.get 0).isSome = true ∧ s.history ≠ [] ∧
      ∀ messages, Refused ((backend_after library s calls).processEmm library env messages).2 := by
  have htrouble : (backend_after library { keys := () } calls).trouble = true := by decide +kernel
  refine ⟨htrouble, by decide +kernel, ?_, ?_⟩
  · exact fun hnone => absurd (congrArg List.length hnone) (by decide +kernel)
  · obtain ⟨-, -, -, -, hlaw⟩ := replay_safe_and_fail_closed library () calls calls
    exact (hlaw htrouble (by simp [calls])).2.1 env

end OneMessage

end maleicacid.cas
