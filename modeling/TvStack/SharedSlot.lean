-- The slot of memory through which the CAS service hands its keys to the readers.
-- A writer marks the sequence odd, stores the flag and four words, and marks it
-- even again. Every load and every store is one step, and the steps of all parties
-- interleave. Between two equal even marks the memory does not change, so a reader
-- that sees the same mark twice has the bytes of one store.
import TvStack.Machines
import TvStack.Words

open Machines Words

namespace maleicacid.cas

inductive Result
  | Ok
  | BadValue
  | Unsupported
  | NotProvisioned
  | NoLicense
  | SessionClosed
  | Busy
  | Decrypt
  | Revoked
  | InvalidState
  | Unknown
  deriving DecidableEq

/-- `Secret<16>`: the bytes of two keys. -/
abbrev Secret16 := { bytes : List UInt8 // bytes.length = 16 }

/-- A `uint32_t` by the four bytes that it has in memory. -/
abbrev Word := List UInt8

def zeroWord : Word := List.replicate 4 0

/-- What `eraseSecret` leaves. -/
def erased : List UInt8 := List.replicate 16 0

/-! ## The memory -/

structure SharedKeyState where
  sequence : Nat := 0
  valid : Bool := false
  keys : Fin 4 → Word := fun _ => zeroWord

/-- An atomic store. -/
inductive Write
  | sequence (value : Nat)
  | valid (value : Bool)
  | key (i : Fin 4) (word : Word)

variable (m : SharedKeyState) (value : Option Secret16)

def SharedKeyState.write : Write → SharedKeyState
  | .sequence value => { m with sequence := value }
  | .valid value => { m with valid := value }
  | .key i word => { m with keys := Function.update m.keys i word }

/-- The word that is copied from a value, or 0 for a null value. -/
def word_of (i : Fin 4) : Word :=
  match value with
  | some value => (value.val.drop (i.val * 4)).take 4
  | none => zeroWord

/-- The stores of the flag and of the words, in the order of the program. -/
def cell_writes : List Write :=
  .valid value.isSome :: (List.finRange 4).map fun i => .key i (word_of value i)

/-- The stores that `SharedKeyState::store` makes once it has loaded the sequence, and its
result. -/
def store_writes (before : Nat) (value : Option Secret16) : List Write × Bool :=
  if before ≥ U64_MAX - 1 then (.sequence U64_MAX :: cell_writes none, false)
  else (.sequence (before + 1) :: cell_writes value ++ [.sequence (before + 2)], true)

/-- `SharedKeyState::store`, when nobody looks between its stores. -/
def SharedKeyState.store : SharedKeyState × Bool :=
  let (writes, result) := store_writes m.sequence value
  (writes.foldl SharedKeyState.write m, result)

/-! ## The parties -/

inductive Writer
  | Idle
  /-- About to load the sequence. -/
  | Loading (value : Option Secret16)
  /-- With these stores still to make. -/
  | Writing (value : Option Secret16) (result : Bool) (pending : List Write)

inductive Reader
  | Idle
  /-- About to load the sequence at the start of an attempt. -/
  | Sequence (attempt : Nat)
  | Valid (attempt before : Nat)
  /-- About to load a key word, behind these words. -/
  | Key (attempt before : Nat) (ready : Bool) (words : List Word) (i : Fin 4)
  /-- About to load the sequence once more. -/
  | Check (attempt before : Nat) (ready : Bool) (words : List Word)

/-- The next attempt, if there is one. -/
def Reader.next_attempt (attempt : Nat) : Reader × Option (Result × List UInt8) :=
  if attempt + 1 < 4 then (.Sequence (attempt + 1), none) else (.Idle, some (.Busy, erased))

/-- The next load of `SharedKeyState::snapshot`, with the result when it is the last one. -/
def Reader.load : Reader → Reader × Option (Result × List UInt8)
  | .Idle => (.Idle, none)
  | .Sequence attempt =>
    if m.sequence = U64_MAX then (.Idle, some (.SessionClosed, erased))
    else if m.sequence % 2 = 1 then Reader.next_attempt attempt
    else (.Valid attempt m.sequence, none)
  | .Valid attempt before => (.Key attempt before m.valid [] 0, none)
  | .Key attempt before ready words i =>
    let words := words ++ [m.keys i]
    if h : i.val + 1 < 4 then (.Key attempt before ready words ⟨i.val + 1, h⟩, none)
    else (.Check attempt before ready words, none)
  | .Check attempt before ready words =>
    if m.sequence ≠ before then Reader.next_attempt attempt
    else if !ready then (.Idle, some (.NoLicense, erased))
    else (.Idle, some (.Ok, words.flatten))

/-! ## The interleaving -/

variable {ι : Type} [DecidableEq ι]

/-- The memory with its writer and its readers. The registry serialises the stores, so there is one
writer at a time. -/
structure SlotState (ι : Type) where
  memory : SharedKeyState := {}
  writer : Writer := .Idle
  readers : ι → Reader := fun _ => .Idle
  /-- The values of the stores that returned true, in order. -/
  completed : List (Option Secret16) := []

inductive SlotAction (ι : Type)
  | store (value : Option Secret16)
  | write
  | snapshot (reader : ι)
  | load (reader : ι)
  deriving DecidableEq

inductive SlotAnswer (ι : Type)
  | stored (result : Bool)
  | snapshot (reader : ι) (result : Result) (value : List UInt8)

/-- The value of the store that completed last. None is a null store, or no store at all. -/
def SlotState.latest (s : SlotState ι) : Option Secret16 := s.completed.getLast?.join

/-- The next load or store of the writer. -/
def SlotState.write (s : SlotState ι) : SlotState ι × Option (SlotAnswer ι) :=
  match s.writer with
  | .Idle => (s, none)
  | .Loading value =>
    let (pending, result) := store_writes s.memory.sequence value
    ({ s with writer := .Writing value result pending }, none)
  | .Writing _ _ [] => (s, none)
  | .Writing value result [last] =>
    ({ s with
        memory := s.memory.write last
        writer := .Idle
        completed := if result then s.completed ++ [value] else s.completed },
      some (.stored result))
  | .Writing value result (next :: pending) =>
    ({ s with memory := s.memory.write next, writer := .Writing value result pending }, none)

/-- The next load of a reader. -/
def SlotState.load (s : SlotState ι) (i : ι) : SlotState ι × Option (SlotAnswer ι) :=
  let (reader, answer) := (s.readers i).load s.memory
  ({ s with readers := Function.update s.readers i reader },
    answer.map fun (result, value) => .snapshot i result value)

/-- A party that is in a call does not begin another one. -/
def SlotState.step (s : SlotState ι) : SlotAction ι → SlotState ι × Option (SlotAnswer ι)
  | .store value =>
    match s.writer with
    | .Idle => ({ s with writer := .Loading value }, none)
    | _ => (s, none)
  | .write => s.write
  | .snapshot i =>
    match s.readers i with
    | .Idle => ({ s with readers := Function.update s.readers i (.Sequence 0) }, none)
    | _ => (s, none)
  | .load i => s.load i

end maleicacid.cas

open List

namespace maleicacid.cas

open SlotState Reader

variable {ι : Type} {rest : List Write} {result : Bool} {m m' : SharedKeyState} {reader : Reader}
  {action : SlotAction ι} {i : ι}

/-! ## What the memory holds -/

/-- The flag and the words are those of a value. -/
def SharedKeyState.Presents (m : SharedKeyState) (value : Option Secret16) : Prop :=
  m.valid = value.isSome ∧ m.keys = word_of value

theorem words_of_value (value : Secret16) :
    (List.ofFn (word_of (some value))).flatten = value.val := by
  have hword (i : Nat) :
      (value.val.drop i).take 4 ++ value.val.drop (i + 4) = value.val.drop i := by
    rw [← drop_drop, take_append_drop]
  have hlast : (value.val.drop 12).take 4 = value.val.drop 12 :=
    take_of_length_le (by rw [length_drop]; omega)
  have hwords : (value.val.drop 0).take 4 ++ ((value.val.drop 4).take 4 ++
      ((value.val.drop 8).take 4 ++ ((value.val.drop 12).take 4 ++ []))) = value.val := by
    rw [append_nil, hlast, hword 8, hword 4, hword 0, drop_zero]
  exact hwords

/-- The stores of the flag and of the words bring the memory to the value. -/
theorem cell_writes_show (m : SharedKeyState) (value : Option Secret16) :
    ((cell_writes value).foldl SharedKeyState.write m).Presents value := by
  refine ⟨rfl, funext fun i => ?_⟩
  match i with
  | 0 | 1 | 2 | 3 => rfl

/-- A mark at which a reader goes on. -/
def Quiet (sequence : Nat) : Prop := sequence % 2 = 0 ∧ sequence ≠ U64_MAX

/-- The memory of a step: the sequence does not fall, and while it stays at a mark at which a reader
goes on, nothing else changes. -/
def Advances (m m' : SharedKeyState) : Prop :=
  m.sequence ≤ m'.sequence ∧ (Quiet m'.sequence → m.sequence = m'.sequence → m' = m)

theorem Advances.refl (m : SharedKeyState) : Advances m m := ⟨Nat.le_refl _, fun _ _ => rfl⟩

/-! ## The writer -/

variable (s : SlotState ι)

/-- The sequence counts the stores, and the memory shows the latest one. -/
def Settled : Prop :=
  s.memory.sequence = 2 * s.completed.length ∧ s.memory.sequence < U64_MAX ∧
    s.memory.Presents s.latest

def isCell : Write → Bool
  | .sequence _ => false
  | _ => true

variable (value : Option Secret16) (pending : List Write)

/-- What is left of a store that is under way: its cells, which bring the memory to its value, and
the even mark. -/
def UnderWay : Prop :=
  ∃ cells, pending = cells ++ [.sequence (2 * s.completed.length + 2)] ∧ (∀ w ∈ cells, isCell w) ∧
    s.memory.sequence = 2 * s.completed.length + 1 ∧ 2 * s.completed.length + 2 < U64_MAX ∧
    (cells.foldl SharedKeyState.write s.memory).Presents value

/-- The sequence is at its end. What is left of a store is its cells. -/
def Exhausted : Prop :=
  s.memory.sequence = U64_MAX ∧ ∀ w ∈ pending, isCell w ∨ w = .sequence U64_MAX

def WriterFits : Prop :=
  match s.writer with
  | .Idle | .Loading _ => Settled s ∨ s.memory.sequence = U64_MAX
  | .Writing value result pending =>
    pending ≠ [] ∧
      if result then
        (Settled s ∧ (pending, true) = store_writes s.memory.sequence value) ∨
          UnderWay s value pending
      else
        (Settled s ∧ (pending, false) = store_writes s.memory.sequence value) ∨ Exhausted s pending

theorem write_cell {w : Write} (h : isCell w) (m : SharedKeyState) :
    (m.write w).sequence = m.sequence := by
  cases w with
  | sequence value => contradiction
  | valid value | key i word => rfl

theorem cell_writes_cells : ∀ w ∈ cell_writes value, isCell w := by
  intro w hw
  rcases mem_cons.mp hw with rfl | hw
  · rfl
  · obtain ⟨i, -, rfl⟩ := mem_map.mp hw
    rfl

variable {s : SlotState ι} {value : Option Secret16} {pending : List Write}

/-- The first store of a writer that has room: the mark is odd. -/
theorem Settled.begins (h : Settled s)
    (hwrites : (pending, true) = store_writes s.memory.sequence value) :
    ∃ next rest, pending = next :: rest ∧ rest ≠ [] ∧
      (s.memory.write next).sequence = s.memory.sequence + 1 ∧
      UnderWay { s with memory := s.memory.write next, writer := .Writing value true rest } value
        rest := by
  obtain ⟨hcount, -, -⟩ := h
  have hmax : U64_MAX = 18446744073709551615 := rfl
  unfold store_writes at hwrites
  split at hwrites
  · cases hwrites
  cases hwrites
  refine ⟨_, _, rfl, by simp, rfl, cell_writes value, ?_, cell_writes_cells value, ?_, ?_,
    cell_writes_show _ value⟩
  · rw [hcount]
    rfl
  · exact congrArg (· + 1) hcount
  · change 2 * s.completed.length + 2 < U64_MAX
    omega

/-- The first store of a writer that has no room: the sequence goes to its end. -/
theorem Settled.exhausts (h : Settled s)
    (hwrites : (pending, false) = store_writes s.memory.sequence value) :
    ∃ next rest, pending = next :: rest ∧ rest ≠ [] ∧
      s.memory.sequence < (s.memory.write next).sequence ∧
      Exhausted { s with memory := s.memory.write next, writer := .Writing value false rest }
        rest := by
  obtain ⟨-, hlt, -⟩ := h
  unfold store_writes at hwrites
  split at hwrites
  · cases hwrites
    exact ⟨_, _, rfl, by simp [cell_writes], hlt, rfl,
      fun w hw => .inl (cell_writes_cells none w hw)⟩
  · cases hwrites

/-- The next store of a store that is under way is a cell, or it is the even mark, with which the
memory shows the value. -/
theorem UnderWay.next {next : Write} (h : UnderWay s value (next :: rest)) :
    (rest ≠ [] ∧ (s.memory.write next).sequence = s.memory.sequence ∧
      UnderWay { s with memory := s.memory.write next, writer := .Writing value true rest } value
        rest) ∨
    (rest = [] ∧ (s.memory.write next).sequence = s.memory.sequence + 1 ∧
      Settled { s with
        memory := s.memory.write next, writer := .Idle, completed := s.completed ++ [value] }) := by
  obtain ⟨cells, hpending, hcells, hmark, hroom, hshows⟩ := h
  cases cells with
  | nil =>
    cases hpending
    refine .inr ⟨rfl, ?_, ?_, ?_, ?_⟩
    · change 2 * s.completed.length + 2 = s.memory.sequence + 1
      omega
    · change 2 * s.completed.length + 2 = 2 * (s.completed ++ [value]).length
      rw [length_append, length_singleton]
      omega
    · exact hroom
    · change (s.memory.write _).Presents (s.completed ++ [value]).getLast?.join
      rw [getLast?_concat]
      exact hshows
  | cons cell cells =>
    cases hpending
    obtain ⟨hcell, hcells⟩ := forall_mem_cons.mp hcells
    have hsame := write_cell hcell s.memory
    exact .inl ⟨by simp, hsame, cells, rfl, hcells, hsame.trans hmark, hroom, hshows⟩

theorem Exhausted.next {next : Write} (h : Exhausted s (next :: rest)) :
    (s.memory.write next).sequence = U64_MAX ∧ ∀ w ∈ rest, isCell w ∨ w = .sequence U64_MAX := by
  obtain ⟨hmark, hwrites⟩ := h
  obtain ⟨hnext, hrest⟩ := forall_mem_cons.mp hwrites
  refine ⟨?_, hrest⟩
  rcases hnext with hcell | rfl
  · rw [write_cell hcell, hmark]
  · rfl

theorem SlotState.write_cons {next : Write} (h : s.writer = .Writing value result (next :: rest)) :
    s.write =
      if rest = [] then
        ({ s with
            memory := s.memory.write next
            writer := .Idle
            completed := if result then s.completed ++ [value] else s.completed },
          some (.stored result))
      else
        ({ s with memory := s.memory.write next, writer := .Writing value result rest }, none) := by
  unfold SlotState.write
  rw [h]
  cases rest <;> rfl

theorem advances_of_lt (h : m.sequence < m'.sequence) : Advances m m' :=
  ⟨Nat.le_of_lt h, fun _ heq => absurd heq (Nat.ne_of_lt h)⟩

theorem advances_of_busy (h : m'.sequence = m.sequence) (hbusy : ¬ Quiet m.sequence) :
    Advances m m' :=
  ⟨Nat.le_of_eq h.symm, fun hquiet _ => absurd (h ▸ hquiet) hbusy⟩

theorem exhausted_busy (h : m.sequence = U64_MAX) : ¬ Quiet m.sequence :=
  fun hquiet => hquiet.2 h

/-- The stores that a writer sets out to make fit the sequence that it loaded. -/
theorem store_writes_fit (h : Settled s ∨ s.memory.sequence = U64_MAX) :
    WriterFits { s with
      writer := .Writing value (store_writes s.memory.sequence value).2
        (store_writes s.memory.sequence value).1 } := by
  constructor
  · unfold store_writes
    split <;> simp
  · rcases h with hsettled | hmax
    · cases hresult : (store_writes s.memory.sequence value).2 with
      | true | false => exact .inl ⟨hsettled, Prod.ext rfl hresult.symm⟩
    · have hwrites : store_writes s.memory.sequence value =
          (.sequence U64_MAX :: cell_writes none, false) := if_pos (by omega)
      rw [hwrites]
      refine .inr ⟨hmax, fun w hw => ?_⟩
      rcases mem_cons.mp hw with rfl | hcell
      · exact .inr rfl
      · exact .inl (cell_writes_cells none w hcell)

/-- A store of the writer keeps what is said of it, and the memory goes on. -/
theorem write_fits (h : WriterFits s) :
    WriterFits s.write.1 ∧ Advances s.memory s.write.1.memory := by
  cases hwriter : s.writer with
  | Idle =>
    have hstays : s.write = (s, none) := by
      unfold SlotState.write
      rw [hwriter]
    rw [hstays]
    exact ⟨h, .refl _⟩
  | Loading value =>
    have hloads : s.write =
        ({ s with
            writer := .Writing value (store_writes s.memory.sequence value).2
              (store_writes s.memory.sequence value).1 }, none) := by
      unfold SlotState.write
      rw [hwriter]
    rw [hloads]
    refine ⟨?_, .refl _⟩
    unfold WriterFits at h
    rw [hwriter] at h
    exact store_writes_fit h
  | Writing value result pending =>
    unfold WriterFits at h
    rw [hwriter] at h
    obtain ⟨hsome, h⟩ := h
    obtain ⟨next, rest, rfl⟩ := exists_cons_of_ne_nil hsome
    rw [write_cons hwriter]
    cases result with
    | true =>
      rcases h with ⟨hsettled, hwrites⟩ | hunder
      · obtain ⟨_, _, heq, hrest, hmark, hunder⟩ := hsettled.begins hwrites
        cases heq
        rw [if_neg hrest]
        exact ⟨⟨hrest, .inr hunder⟩, advances_of_lt (by rw [hmark]; omega)⟩
      · have hbusy : ¬ Quiet s.memory.sequence := by
          obtain ⟨-, -, -, hodd, -⟩ := hunder
          intro hquiet
          have := hquiet.1
          omega
        rcases hunder.next with ⟨hrest, hmark, hunder⟩ | ⟨hrest, hmark, hsettled⟩
        · rw [if_neg hrest]
          exact ⟨⟨hrest, .inr hunder⟩, advances_of_busy hmark hbusy⟩
        · rw [if_pos hrest]
          exact ⟨.inl hsettled, advances_of_lt (by rw [hmark]; omega)⟩
    | false =>
      rcases h with ⟨hsettled, hwrites⟩ | hexhausted
      · obtain ⟨_, _, heq, hrest, hmark, hexhausted⟩ := hsettled.exhausts hwrites
        cases heq
        rw [if_neg hrest]
        exact ⟨⟨hrest, .inr hexhausted⟩, advances_of_lt hmark⟩
      · obtain ⟨hmark, hrest⟩ := hexhausted.next
        have hadvances : Advances s.memory (s.memory.write next) :=
          advances_of_busy (hmark.trans hexhausted.1.symm) (exhausted_busy hexhausted.1)
        split
        · exact ⟨.inr hmark, hadvances⟩
        · rename_i hsome
          exact ⟨⟨hsome, .inr ⟨hmark, hrest⟩⟩, hadvances⟩

/-- No store is under way, or the mark is odd, or the sequence is at its end. -/
theorem WriterFits.phase (h : WriterFits s) :
    Settled s ∨ (s.memory.sequence % 2 = 1 ∧ s.memory.sequence < U64_MAX) ∨
      s.memory.sequence = U64_MAX := by
  unfold WriterFits at h
  split at h
  · exact h.imp_right .inr
  · exact h.imp_right .inr
  obtain ⟨-, h⟩ := h
  split at h
  · rcases h with ⟨hsettled, -⟩ | ⟨_, -, -, hodd, hroom, -⟩
    · exact .inl hsettled
    · exact .inr (.inl (by omega))
  · exact h.imp And.left fun hexhausted => .inr hexhausted.1

/-- With an even mark the memory shows the latest store. -/
theorem WriterFits.shows (h : WriterFits s) (hquiet : Quiet s.memory.sequence) :
    s.memory.Presents s.latest := by
  obtain ⟨heven, hne⟩ := hquiet
  rcases h.phase with hsettled | ⟨hodd, -⟩ | hmax
  · exact hsettled.2.2
  · omega
  · exact absurd hmax hne

theorem WriterFits.bounded (h : WriterFits s) : s.memory.sequence ≤ U64_MAX := by
  rcases h.phase with hsettled | ⟨-, hlt⟩ | hmax
  · exact Nat.le_of_lt hsettled.2.1
  · exact Nat.le_of_lt hlt
  · exact Nat.le_of_eq hmax

theorem WriterFits.refuses (h : WriterFits s) (hmax : s.memory.sequence = U64_MAX)
    (hanswer : s.write.2 = some (.stored result)) : result = false := by
  unfold WriterFits at h
  unfold SlotState.write at hanswer
  cases hwriter : s.writer <;> rw [hwriter] at h hanswer
  case Idle => cases hanswer
  case Loading value => cases hanswer
  case Writing value promised pending =>
    obtain ⟨hsome, h⟩ := h
    obtain ⟨next, rest, rfl⟩ := exists_cons_of_ne_nil hsome
    have hpromised : promised = result := by
      cases rest <;> cases hanswer
      rfl
    subst hpromised
    cases promised with
    | false => rfl
    | true =>
      rcases h with ⟨hsettled, -⟩ | ⟨_, -, -, hodd, hroom, -⟩
      · exact absurd hmax (Nat.ne_of_lt hsettled.2.1)
      · omega

/-! ## The readers -/

/-- What a reader has loaded, while the sequence is still at the mark that it saw. -/
def ReaderFits (m : SharedKeyState) : Reader → Prop
  | .Idle => True
  | .Sequence attempt => attempt < 4
  | .Valid attempt before => attempt < 4 ∧ Quiet before ∧ before ≤ m.sequence
  | .Key attempt before ready words i =>
    attempt < 4 ∧ Quiet before ∧ before ≤ m.sequence ∧
      (m.sequence = before → ready = m.valid ∧ words = (List.ofFn m.keys).take i)
  | .Check attempt before ready words =>
    attempt < 4 ∧ Quiet before ∧ before ≤ m.sequence ∧
      (m.sequence = before → ready = m.valid ∧ words = List.ofFn m.keys)

theorem ReaderFits.advance (h : ReaderFits m reader) (hadvances : Advances m m') :
    ReaderFits m' reader := by
  obtain ⟨hle, hsame⟩ := hadvances
  have hstays {before : Nat} (hquiet : Quiet before) (hbefore : before ≤ m.sequence)
      (hnow : m'.sequence = before) : m' = m :=
    hsame (hnow ▸ hquiet) (by omega)
  cases reader with
  | Idle => trivial
  | Sequence attempt => exact h
  | Valid attempt before => exact ⟨h.1, h.2.1, Nat.le_trans h.2.2 hle⟩
  | Key attempt before ready words _ | Check attempt before ready words =>
    obtain ⟨hattempt, hquiet, hbefore, hloaded⟩ := h
    refine ⟨hattempt, hquiet, Nat.le_trans hbefore hle, fun hnow => ?_⟩
    have heq := hstays hquiet hbefore hnow
    subst heq
    exact hloaded hnow

/-- What the result of a snapshot says of the memory at its last load. -/
def AnswerFits (m : SharedKeyState) (value : List UInt8) : Result → Prop
  | .Ok => Quiet m.sequence ∧ m.valid = true ∧ value = (List.ofFn m.keys).flatten
  | .NoLicense => Quiet m.sequence ∧ m.valid = false ∧ value = erased
  | .SessionClosed => m.sequence = U64_MAX ∧ value = erased
  | .Busy => value = erased
  | _ => False

theorem next_attempt_fits (m : SharedKeyState) {attempt : Nat} :
    ReaderFits m (next_attempt attempt).1 ∧
      ∀ result value, (next_attempt attempt).2 = some (result, value) →
        AnswerFits m value result := by
  unfold next_attempt
  split
  · rename_i hnext
    exact ⟨hnext, nofun⟩
  refine ⟨trivial, fun result value h => ?_⟩
  cases h
  exact rfl

/-- A load keeps what is said of the reader, and its result says what the memory is. -/
theorem load_fits (h : ReaderFits m reader) :
    ReaderFits m (reader.load m).1 ∧
      ∀ result value, (reader.load m).2 = some (result, value) → AnswerFits m value result := by
  cases reader with
  | Idle => exact ⟨trivial, nofun⟩
  | Sequence attempt =>
    simp only [Reader.load]
    split
    · rename_i hmax
      refine ⟨trivial, fun result value hanswer => ?_⟩
      cases hanswer
      exact ⟨hmax, rfl⟩
    · split
      · exact next_attempt_fits m
      · rename_i hmax hodd
        exact ⟨⟨h, ⟨by omega, hmax⟩, Nat.le_refl _⟩, nofun⟩
  | Valid attempt before =>
    obtain ⟨hattempt, hquiet, hbefore⟩ := h
    exact ⟨⟨hattempt, hquiet, hbefore, fun _ => ⟨rfl, rfl⟩⟩, nofun⟩
  | Key attempt before ready words i =>
    obtain ⟨hattempt, hquiet, hbefore, hloaded⟩ := h
    have htake : (ofFn m.keys).take (i.val + 1) =
        (ofFn m.keys).take i.val ++ [m.keys i] := by
      rw [List.take_add_one, List.getElem?_ofFn]
      simp
    simp only [Reader.load]
    split
    · refine ⟨⟨hattempt, hquiet, hbefore, fun hnow => ?_⟩, nofun⟩
      obtain ⟨hready, hwords⟩ := hloaded hnow
      exact ⟨hready, by rw [htake, hwords]⟩
    refine ⟨⟨hattempt, hquiet, hbefore, fun hnow => ?_⟩, nofun⟩
    obtain ⟨hready, hwords⟩ := hloaded hnow
    have hall : (ofFn m.keys).take (i.val + 1) = ofFn m.keys :=
      take_of_length_le (by rw [length_ofFn]; omega)
    exact ⟨hready, by rw [← hall, htake, hwords]⟩
  | Check attempt before ready words =>
    obtain ⟨hattempt, hquiet, hbefore, hloaded⟩ := h
    simp only [Reader.load]
    split
    · exact next_attempt_fits m
    rename_i hsame
    obtain ⟨rfl, rfl⟩ := hloaded (not_not.mp hsame)
    have hnow : Quiet m.sequence := not_not.mp hsame ▸ hquiet
    split
    · rename_i hnull
      refine ⟨trivial, fun result value hanswer => ?_⟩
      cases hanswer
      exact ⟨hnow, by simpa using hnull, rfl⟩
    · rename_i hvalid
      refine ⟨trivial, fun result value hanswer => ?_⟩
      cases hanswer
      exact ⟨hnow, by simpa using hvalid, rfl⟩

/-! ## Every interleaving -/

structure SlotFits (s : SlotState ι) : Prop where
  writer : WriterFits s
  readers : ∀ i, ReaderFits s.memory (s.readers i)

theorem slot_starts : SlotFits ({} : SlotState ι) :=
  ⟨.inl ⟨rfl, (by decide : 0 < U64_MAX), rfl, rfl⟩, fun _ => trivial⟩

variable [DecidableEq ι]

theorem step_fits (h : SlotFits s) (action : SlotAction ι) :
    SlotFits (s.step action).1 ∧ s.memory.sequence ≤ (s.step action).1.memory.sequence := by
  cases action with
  | store value =>
    unfold step
    cases hwriter : s.writer with
    | Idle =>
      have hfits := h.writer
      unfold WriterFits at hfits
      rw [hwriter] at hfits
      exact ⟨⟨hfits, h.readers⟩, Nat.le_refl _⟩
    | Loading _ | Writing _ _ _ => exact ⟨h, Nat.le_refl _⟩
  | write =>
    obtain ⟨hfits, hadvances⟩ := write_fits h.writer
    have hreaders : s.write.1.readers = s.readers := by
      unfold SlotState.write
      split <;> rfl
    refine ⟨⟨hfits, fun i => ?_⟩, hadvances.1⟩
    exact (congrFun hreaders i).symm ▸ (h.readers i).advance hadvances
  | snapshot i =>
    simp only [step]
    split
    · refine ⟨⟨h.writer, fun j => ?_⟩, Nat.le_refl _⟩
      by_cases hj : j = i
      · subst hj
        simp [ReaderFits]
      · simpa [hj] using h.readers j
    · exact ⟨h, Nat.le_refl _⟩
  | load i =>
    refine ⟨⟨h.writer, fun j => ?_⟩, Nat.le_refl _⟩
    change ReaderFits s.memory (Function.update s.readers i ((s.readers i).load s.memory).1 j)
    by_cases hj : j = i
    · subst hj
      rw [Function.update_self]
      exact (load_fits (h.readers j)).1
    · rw [Function.update_of_ne hj]
      exact h.readers j

/-- The state after a list of steps. -/
def after (actions : List (SlotAction ι)) : SlotState ι := (run step {} actions).1

theorem after_fits (actions : List (SlotAction ι)) : SlotFits (after actions) :=
  run_keeps (P := SlotFits) (fun _ action h => (step_fits h action).1) {} actions slot_starts

/-- A store ends by a write, and a snapshot by a load of its reader. -/
theorem step_answer {answer : SlotAnswer ι} (h : (s.step action).2 = some answer) :
    match answer with
    | .stored _ => s.write.2 = some answer
    | .snapshot i result value => ((s.readers i).load s.memory).2 = some (result, value) := by
  cases action with
  | store _ | snapshot _ =>
    simp only [step] at h
    split at h <;> cases h
  | write =>
    cases answer with
    | stored result => exact h
    | snapshot i result value =>
      simp only [step, SlotState.write] at h
      split at h <;> cases h
  | load i =>
    obtain ⟨⟨result, value⟩, hreturned, rfl⟩ := Option.map_eq_some_iff.mp h
    exact hreturned

/-! ## The end of the sequence -/

theorem exhausted_stays (h : SlotFits s) (hmax : s.memory.sequence = U64_MAX)
    (actions : List (SlotAction ι)) :
    SlotFits (run step s actions).1 ∧
      (run step s actions).1.memory.sequence = U64_MAX := by
  refine run_keeps (P := fun t => SlotFits t ∧ t.memory.sequence = U64_MAX)
    (fun t action ht => ?_) s actions ⟨h, hmax⟩
  obtain ⟨hfits, hle⟩ := step_fits ht.1 action
  exact ⟨hfits, Nat.le_antisymm hfits.writer.bounded (ht.2 ▸ hle)⟩

/-! ## The end of a snapshot -/

/-- The loads that a snapshot can still make. -/
def Reader.left : Reader → Nat
  | .Idle => 0
  | .Sequence attempt => 7 * (3 - attempt) + 7
  | .Valid attempt _ => 7 * (3 - attempt) + 6
  | .Key attempt _ _ _ i => 7 * (3 - attempt) + (5 - i.val)
  | .Check attempt _ _ _ => 7 * (3 - attempt) + 1

/-- The attempts that a snapshot has begun. -/
def Reader.attempts : Reader → Nat
  | .Idle => 0
  | .Sequence attempt | .Valid attempt _ | .Key attempt _ _ _ _ | .Check attempt _ _ _ =>
    attempt + 1

theorem next_attempt_left {attempt n : Nat} (h : attempt < 4)
    (hn : attempt < 3 → (Sequence (attempt + 1)).left < n) :
    ((next_attempt attempt).2 = none ∧ 0 < (next_attempt attempt).1.left ∧
        (next_attempt attempt).1.left < n) ∨
      ∃ result value, (next_attempt attempt).2 = some (result, value) ∧
        (result = .Busy → attempt + 1 = 4) := by
  unfold next_attempt
  split
  · exact .inl ⟨rfl, by simp only [left]; omega, hn (by omega)⟩
  · exact .inr ⟨_, _, rfl, fun _ => by omega⟩

/-- A load of a snapshot is its last one, or it leaves fewer to make. -/
theorem load_left (h : ReaderFits m reader) (hactive : 0 < reader.left) :
    ((reader.load m).2 = none ∧ 0 < (reader.load m).1.left ∧
        (reader.load m).1.left < reader.left) ∨
      ∃ result value, (reader.load m).2 = some (result, value) ∧
        (result = .Busy → reader.attempts = 4) := by
  cases reader with
  | Idle => contradiction
  | Sequence attempt =>
    have hattempt : attempt < 4 := h
    simp only [Reader.load]
    split
    · exact .inr ⟨_, _, rfl, by simp⟩
    split
    · exact next_attempt_left hattempt fun _ => by simp only [left]; omega
    · exact .inl ⟨rfl, by simp only [left]; omega, by simp only [left]; omega⟩
  | Valid attempt before =>
    exact .inl ⟨rfl, by simp only [Reader.load, left]; omega,
      by simp only [Reader.load, left]; omega⟩
  | Key attempt before ready words i =>
    simp only [Reader.load]
    split <;> exact .inl ⟨rfl, by simp only [left]; omega, by simp only [left]; omega⟩
  | Check attempt before ready words =>
    have hattempt : attempt < 4 := h.1
    simp only [Reader.load]
    split
    · exact next_attempt_left hattempt fun _ => by simp only [left]; omega
    · split <;> exact .inr ⟨_, _, rfl, by simp⟩

/-- A reader in a snapshot moves by its own loads alone. -/
theorem step_other (hactive : 0 < (s.readers i).left) (haction : action ≠ .load i) :
    (s.step action).1.readers i = s.readers i := by
  cases action with
  | store value =>
    simp only [step]
    split <;> rfl
  | write =>
    simp only [step, SlotState.write]
    split <;> rfl
  | snapshot j =>
    simp only [step]
    split
    · rename_i hidle
      by_cases hj : i = j
      · subst hj
        rw [hidle] at hactive
        contradiction
      · exact Function.update_of_ne hj _ _
    · rfl
  | load j =>
    have hj : i ≠ j := fun h => haction (h ▸ rfl)
    exact Function.update_of_ne hj _ _

/-- The result of a snapshot is among the answers of a run. -/
def Returns (i : ι) (answers : List (Option (SlotAnswer ι))) : Prop :=
  ∃ result value, some (.snapshot i result value) ∈ answers

/-- A snapshot that makes as many loads as it can returns. -/
theorem snapshot_returns (h : SlotFits s) (hactive : 0 < (s.readers i).left)
    (actions : List (SlotAction ι)) (hloads : (s.readers i).left ≤ actions.count (.load i)) :
    Returns i (run step s actions).2 := by
  induction actions generalizing s with
  | nil =>
    rw [count_nil] at hloads
    omega
  | cons action actions ih =>
    have hfits := (step_fits h action).1
    have hlater (hrest : Returns i (run step (s.step action).1 actions).2) :
        Returns i (run step s (action :: actions)).2 := by
      obtain ⟨result, value, hmem⟩ := hrest
      exact ⟨result, value, mem_cons_of_mem _ hmem⟩
    by_cases haction : action = .load i
    · subst haction
      rw [count_cons_self] at hloads
      rcases load_left (h.readers i) hactive with ⟨-, hstill, hless⟩ | ⟨result, value, hreturns, -⟩
      · have hreader : (s.step (.load i)).1.readers i = ((s.readers i).load s.memory).1 :=
          Function.update_self _ _ _
        refine hlater (ih hfits ?_ ?_)
        · rw [hreader]
          exact hstill
        · rw [hreader]
          omega
      · refine ⟨result, value, mem_cons.mpr (.inl ?_)⟩
        change _ = Option.map _ ((s.readers i).load s.memory).2
        rw [hreturns]
        rfl
    · have hreader := step_other hactive haction
      rw [count_cons_of_ne haction] at hloads
      refine hlater (ih hfits ?_ ?_)
      · rw [hreader]
        exact hactive
      · rw [hreader]
        exact hloads

/-! ## The law -/

/-- What the result of a snapshot says, at the moment of its last load: the bytes of the latest
store, or that it was a null store, or that the sequence is at its end, or that four attempts were
not enough. -/
def Truthful (s : SlotState ι) (i : ι) (value : List UInt8) : Result → Prop
  | .Ok => ∃ key, s.latest = some key ∧ value = key.val
  | .NoLicense => s.latest = none ∧ value = erased
  | .SessionClosed => s.memory.sequence = U64_MAX ∧ value = erased
  | .Busy => (s.readers i).attempts = 4 ∧ value = erased
  | _ => False

theorem snapshot_truthful (h : SlotFits s) {result : Result} {value : List UInt8}
    (hanswer : (s.step action).2 = some (.snapshot i result value)) :
    Truthful s i value result := by
  have hload : ((s.readers i).load s.memory).2 = some (result, value) := step_answer hanswer
  have hfits := (load_fits (h.readers i)).2 result value hload
  cases result with
  | Ok =>
    obtain ⟨hquiet, hvalid, hvalue⟩ := hfits
    obtain ⟨hflag, hkeys⟩ := h.writer.shows hquiet
    obtain ⟨key, hkey⟩ := Option.isSome_iff_exists.mp (hflag.symm.trans hvalid)
    exact ⟨key, hkey, by rw [hvalue, hkeys, hkey, words_of_value]⟩
  | NoLicense =>
    obtain ⟨hquiet, hvalid, hvalue⟩ := hfits
    have hflag := (h.writer.shows hquiet).1
    exact ⟨Option.not_isSome_iff_eq_none.mp (by rw [← hflag, hvalid]; nofun), hvalue⟩
  | SessionClosed => exact hfits
  | Busy =>
    refine ⟨?_, hfits⟩
    have hactive : 0 < (s.readers i).left := by
      cases hreader : s.readers i with
      | Idle =>
        rw [hreader] at hload
        cases hload
      | _ =>
        simp only [left]
        omega
    rcases load_left (h.readers i) hactive with ⟨hnone, -⟩ | ⟨_, _, hreturns, hbusy⟩
    · rw [hnone] at hload
      cases hload
    · rw [hreturns] at hload
      cases hload
      exact hbusy rfl
  | _ => exact hfits.elim

theorem attempts_le (h : ReaderFits m reader) : reader.attempts ≤ 4 := by
  cases reader with
  | Idle => exact Nat.zero_le 4
  | Sequence attempt => exact h
  | Valid attempt before | Key attempt before ready words i | Check attempt before ready words =>
    exact h.1

theorem snapshot_begins (hidle : s.readers i = .Idle) :
    (s.step (.snapshot i)).1.readers i = .Sequence 0 := by
  simp only [step, hidle]
  exact Function.update_self _ _ _

/-- A snapshot that begins at the end of the sequence is refused. -/
theorem snapshot_refused (h : SlotFits s) (hmax : s.memory.sequence = U64_MAX)
    (hidle : s.readers i = .Idle) {later : List (SlotAction ι)} (hlater : .load i ∉ later) :
    ((run step s (.snapshot i :: later)).1.step (.load i)).2 =
      some (.snapshot i .SessionClosed erased) := by
  have hwaits : ∀ (later : List (SlotAction ι)) (t : SlotState ι), .load i ∉ later →
      t.readers i = .Sequence 0 → (run step t later).1.readers i = .Sequence 0 := by
    intro later
    induction later with
    | nil => exact fun t _ ht => ht
    | cons action later ih =>
      intro t hnot ht
      obtain ⟨haction, hnot⟩ := not_or.mp (mt mem_cons.mpr hnot)
      refine ih _ hnot ?_
      rw [step_other (by rw [ht]; decide) (fun h => haction h.symm), ht]
  have hreader := hwaits later _ hlater (snapshot_begins hidle)
  have hend := (exhausted_stays h hmax (.snapshot i :: later)).2
  rw [run_cons] at hend ⊢
  simp only [step, SlotState.load] at hreader hend ⊢
  rw [hreader]
  simp only [Reader.load, hend]
  rfl

/-- In every interleaving of stores and snapshots, the result of a snapshot is true at the moment of
its last load: `Ok` gives the bytes of the store that completed last, `NoLicense` says that it was a
null store. A snapshot makes at most four attempts. The sequence never falls, and once it is at its
end every store fails and every snapshot that begins is refused. -/
theorem the_shared_slot_is_never_torn (actions : List (SlotAction ι)) :
    (∀ action i result value,
        ((after actions).step action).2 = some (.snapshot i result value) →
          Truthful (after actions) i value result) ∧
      (∀ i, ((after actions).readers i).attempts ≤ 4) ∧
      (∀ i later, (after actions).readers i = .Idle → 28 ≤ later.count (.load i) →
        Returns i (run step (after actions) (.snapshot i :: later)).2) ∧
      (∀ action, (after actions).memory.sequence ≤
        ((after actions).step action).1.memory.sequence) ∧
      ((after actions).memory.sequence = U64_MAX → ∀ later,
        (∀ action result,
          ((run step (after actions) later).1.step action).2 = some (.stored result) →
            result = false) ∧
        ∀ i, (after actions).readers i = .Idle → .load i ∉ later →
          ((run step (after actions) (.snapshot i :: later)).1.step (.load i)).2 =
            some (.snapshot i .SessionClosed erased)) := by
  have hfits := after_fits actions
  refine ⟨fun action i result value => snapshot_truthful hfits,
    fun i => attempts_le (hfits.readers i), ?_, fun action => (step_fits hfits action).2, ?_⟩
  · intro i later hidle hloads
    have hbegun := snapshot_begins hidle
    obtain ⟨result, value, hmem⟩ := snapshot_returns (step_fits hfits (.snapshot i)).1
      (by rw [hbegun]; decide) later (by rw [hbegun]; exact hloads)
    exact ⟨result, value, mem_cons_of_mem _ hmem⟩
  · intro hmax later
    obtain ⟨hlater, hend⟩ := exhausted_stays hfits hmax later
    exact ⟨fun action result hstored => hlater.writer.refuses hend (step_answer hstored),
      fun i hidle => snapshot_refused hfits hmax hidle⟩

namespace OneReader

def key : Secret16 := ⟨List.replicate 16 0x21, rfl⟩

/-- A store, and a snapshot that comes to its last load while a null store has begun. -/
def actions : List (SlotAction Unit) :=
  [.store (some key)] ++ List.replicate 8 .write ++ [.snapshot (), .store none] ++
    List.replicate 6 (.load ()) ++ [.write]

theorem the_snapshot_has_the_bytes_of_the_store :
    ((after actions).step (.load ())).2 = some (.snapshot () .Ok key.val) ∧
      Truthful (after actions) () key.val .Ok :=
  ⟨rfl, (the_shared_slot_is_never_torn actions).1 (.load ()) () .Ok key.val rfl⟩

end OneReader

end maleicacid.cas
