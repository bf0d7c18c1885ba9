-- The state that the CAS backend keeps over a restart: for each key group the
-- number of its last update, the message that brought it, and the work keys.
-- What is written to the file is read back as it was.
import TvStack.Codecs
import TvStack.Words
import Mathlib.Data.Fin.VecNotation

open Codecs List
open Words (every_byte)

namespace maleicacid.cas

abbrev Bytes := List UInt8

/-- `std::array<uint8_t, N>` -/
abbrev Block (n : Nat) := { bytes : Bytes // bytes.length = n }

def Block.zero (n : Nat) : Block n := ⟨replicate n 0, length_replicate⟩

abbrev CardId := Block 6

/-- `Secret<8>`: a work key. -/
abbrev Secret8 := Block 8

def kYakisobaGroups : Fin 6 → UInt8 := ![0x02, 0x03, 0x17, 0x1d, 0x1e, 0x20]

abbrev kYakisobaKeyBuckets : Nat := 10

/-- The letters MCASPS02. -/
def kMagic : Block 8 := ⟨[0x4d, 0x43, 0x41, 0x53, 0x50, 0x53, 0x30, 0x32], rfl⟩

def kMaxStateSize : Nat := 16384

/-! ## The C++ functions -/

structure PersistedWorkKey where
  present : Bool := false
  id : UInt8 := 0xff
  key : Secret8 := .zero 8

structure PersistedWorkKeyGroup where
  updated : Bool := false
  number : UInt16 := 0
  lastMessage : Bytes := []
  keys : Fin kYakisobaKeyBuckets → PersistedWorkKey := fun _ => {}

structure YakisobaPersistentState where
  cardId : CardId := .zero 6
  groups : Fin 6 → PersistedWorkKeyGroup := fun _ => {}

def be16 (high low : UInt8) : UInt16 := (high.toUInt16 <<< 8) ||| low.toUInt16

variable {out out' : Bytes} {entry : PersistedWorkKeyGroup}
  (bucket : Fin kYakisobaKeyBuckets) (g : Fin 6) (input : Bytes) (value : UInt16)
  (file : Option Bytes)

def put16 : Bytes := [(value >>> 8).toUInt8, value.toUInt8]

def take8 : Bytes → Option (UInt8 × Bytes)
  | [] => none
  | value :: input => some (value, input)

def take16 : Bytes → Option (UInt16 × Bytes)
  | high :: low :: input => some (be16 high low, input)
  | _ => none

def appendBytes (data out : Bytes) : Option Bytes :=
  if data.length > kMaxStateSize ∨ out.length > kMaxStateSize - data.length then none
  else some (out ++ data)

def takeBytes (size : Nat) (input : Bytes) : Option (Block size × Bytes) :=
  if h : size ≤ input.length then
    some (⟨input.take size, length_take_of_le h⟩, input.drop size)
  else none

def bucket_of (id : UInt8) : Fin kYakisobaKeyBuckets := Fin.ofNat _ id.toNat

/-- No key has the id 0xff, and every key is in the bucket of its id. -/
def in_bucket (id : UInt8) (bucket : Fin kYakisobaKeyBuckets) : Bool :=
  id ≠ 0xff && bucket_of id = bucket

def put_key (key : PersistedWorkKey) (out : Bytes) : Option Bytes :=
  let out := out ++ [if key.present then 1 else 0]
  if !key.present then some out
  else if in_bucket key.id bucket then appendBytes key.key.val (out ++ [key.id])
  else none

def take_key : Option (PersistedWorkKey × Bytes) := do
  let (present, input) ← take8 input
  if present > 1 then none
  else if present = 0 then some ({}, input)
  else
    let (id, input) ← take8 input
    if in_bucket id bucket then
      let (key, input) ← takeBytes 8 input
      some ({ present := true, id, key }, input)
    else none

def put_group (entry : PersistedWorkKeyGroup) (out : Bytes) : Option Bytes := do
  let out := out ++ kYakisobaGroups g :: (if entry.updated then 1 else 0) :: put16 entry.number
  if entry.lastMessage.length > 256 then none
  else
    let out := out ++ put16 (UInt16.ofNat entry.lastMessage.length)
    let out ← appendBytes entry.lastMessage out
    put_all (fun bucket => put_key bucket (entry.keys bucket)) out

def take_group : Option (PersistedWorkKeyGroup × Bytes) := do
  let (group, input) ← take8 input
  if group ≠ kYakisobaGroups g then none
  else
    let (updated, input) ← take8 input
    if updated > 1 then none
    else
      let (number, input) ← take16 input
      let (messageSize, input) ← take16 input
      if messageSize > 256 then none
      else
        let (lastMessage, input) ← takeBytes messageSize.toNat input
        let (keys, input) ← take_all take_key (fun _ => {}) input
        some ({ updated := updated ≠ 0, number, lastMessage := lastMessage.val, keys }, input)

/-- The bytes that `YakisobaStateStore::commit` writes, or none where it gives up before. -/
def serialize (state : YakisobaPersistentState) : Option Bytes := do
  let out ← appendBytes kMagic.val []
  let out ← appendBytes state.cardId.val out
  let out ← put_all (fun g => put_group g (state.groups g)) out
  if out.length > kMaxStateSize then none else some out

/-- The part of `YakisobaStateStore::load` behind the reading of the file. -/
def parse (cardId : CardId) (input : Bytes) : Option YakisobaPersistentState := do
  let (magic, input) ← takeBytes 8 input
  if magic ≠ kMagic then none
  else
    let (parsed, input) ← takeBytes 6 input
    if parsed ≠ cardId then none
    else
      let (groups, input) ← take_all take_group (fun _ => {}) input
      if input ≠ [] then none else some { cardId := parsed, groups }

inductive PersistentLoadResult
  | Missing
  | Ok
  | Error
  deriving DecidableEq

/-- `YakisobaStateStore::load` into a state, which may be a null pointer. Where the file is there,
opening and reading it may still fail. -/
def load (readable : Bool) (cardId : CardId) (state : Option YakisobaPersistentState) :
    PersistentLoadResult × Option YakisobaPersistentState :=
  if state.isNone then (.Error, state)
  else if !readable then (.Error, state)
  else
    match file with
    | none => (.Missing, state)
    | some input =>
      if input.length = 0 ∨ input.length > kMaxStateSize then (.Error, state)
      else
        match parse cardId input with
        | none => (.Error, state)
        | some parsed => (.Ok, some parsed)

inductive PersistentCommitResult
  | Ok
  | Unchanged
  | OutcomeUnknown
  deriving DecidableEq

/-- How the calls to the system turn out that a commit makes: those for the temporary file, the
renaming, and those for the directory. -/
structure CommitCalls where
  opens : Bool := true
  writeAll : Bool := true
  fsync : Bool := true
  closes : Bool := true
  rename : Bool := true
  opens_parent : Bool := true
  fsync_parent : Bool := true
  closes_parent : Bool := true
  /-- Whether a renaming lasts though the directory was not synced. -/
  lasts : Bool := true

variable (calls : CommitCalls)

/-- `YakisobaStateStore::commit`: what the file is from then on, and the result. -/
def commit (state : YakisobaPersistentState) : Option Bytes × PersistentCommitResult :=
  match serialize state with
  | none => (file, .Unchanged)
  | some output =>
    if !calls.opens then (file, .Unchanged)
    else if !(calls.writeAll && calls.fsync && calls.closes) || !calls.rename then
      (file, .Unchanged)
    else if calls.opens_parent && calls.fsync_parent && calls.closes_parent then (some output, .Ok)
    else (if calls.lasts then some output else file, .OutcomeUnknown)

/-! ## The format -/

def PersistedWorkKey.encoding (key : PersistedWorkKey) : Bytes :=
  if key.present then 1 :: key.id :: key.key.val else [0]

def PersistedWorkKeyGroup.encoding (g : Fin 6) (entry : PersistedWorkKeyGroup) : Bytes :=
  kYakisobaGroups g :: (if entry.updated then 1 else 0) :: (put16 entry.number ++
    (put16 (UInt16.ofNat entry.lastMessage.length) ++ (entry.lastMessage ++
      encode_all (fun _ => PersistedWorkKey.encoding) entry.keys)))

section

variable (state : YakisobaPersistentState)

def YakisobaPersistentState.encoding : Bytes :=
  kMagic.val ++ (state.cardId.val ++ encode_all PersistedWorkKeyGroup.encoding state.groups)

/-- A key that can be written in its bucket. -/
def PersistedWorkKey.Storable (key : PersistedWorkKey) : Prop :=
  key.present = true → in_bucket key.id bucket = true

structure PersistedWorkKeyGroup.Storable (entry : PersistedWorkKeyGroup) : Prop where
  message : entry.lastMessage.length ≤ 256
  keys : ∀ bucket, (entry.keys bucket).Storable bucket

def YakisobaPersistentState.Storable : Prop :=
  ∀ g, (state.groups g).Storable

/-- What is left of a key: nothing of one that is absent. -/
def PersistedWorkKey.settled (key : PersistedWorkKey) : PersistedWorkKey :=
  if key.present then key else {}

def PersistedWorkKeyGroup.settled (entry : PersistedWorkKeyGroup) : PersistedWorkKeyGroup :=
  { entry with keys := fun bucket => (entry.keys bucket).settled }

def YakisobaPersistentState.settled : YakisobaPersistentState :=
  { state with groups := fun g => (state.groups g).settled }

theorem be16_toNat (high low : UInt8) : (be16 high low).toNat = high.toNat * 256 + low.toNat := by
  have hhigh := high.toNat_lt
  have hshift : high.toNat <<< 8 % 2 ^ 16 = high.toNat <<< 8 := by
    omega
  change high.toNat <<< 8 % 2 ^ 16 ||| low.toNat = _
  rw [hshift, ← Nat.shiftLeft_add_eq_or_of_lt low.toNat_lt, Nat.shiftLeft_eq]

theorem be16_eq_iff (high low : UInt8) (value : UInt16) :
    be16 high low = value ↔ [high, low] = put16 value := by
  have hvalue := value.toNat_lt
  have hlow := low.toNat_lt
  simp only [put16, List.cons.injEq, ← UInt16.toNat_inj, ← UInt8.toNat_inj, be16_toNat]
  simp [Nat.shiftRight_eq_div_pow]
  omega

theorem take8_iff (value : UInt8) (rest : Bytes) :
    take8 input = some (value, rest) ↔ input = value :: rest := by
  cases input <;> simp [take8]

theorem take16_iff (rest : Bytes) :
    take16 input = some (value, rest) ↔ input = put16 value ++ rest := by
  rcases input with _ | ⟨high, _ | ⟨low, input⟩⟩
  · simp [take16, put16]
  · simp [take16, put16]
  · have := be16_eq_iff high low value
    simp [take16, put16, this, and_assoc]

theorem takeBytes_iff {n : Nat} (input : Bytes) (block : Block n) (rest : Bytes) :
    takeBytes n input = some (block, rest) ↔ input = block.val ++ rest := by
  obtain ⟨bytes, rfl⟩ := block
  unfold takeBytes
  constructor
  · intro h
    split at h
    · rw [Option.some.injEq, Prod.mk.injEq] at h
      rw [← h.1, ← h.2, take_append_drop]
    · contradiction
  · rintro rfl
    simp

@[simp]
theorem take8_cons (value : UInt8) (rest : Bytes) :
    take8 (value :: rest) = some (value, rest) := rfl

@[simp]
theorem take16_append (rest : Bytes) : take16 (put16 value ++ rest) = some (value, rest) :=
  (take16_iff _ _ _).mpr rfl

@[simp]
theorem takeBytes_append {n : Nat} (block : Block n) (rest : Bytes) :
    takeBytes n (block.val ++ rest) = some (block, rest) :=
  (takeBytes_iff _ _ _).mpr rfl

theorem flag_eq {flag : UInt8} (h : ¬ flag > 1) : flag = if flag ≠ 0 then 1 else 0 := by
  rw [UInt8.not_lt] at h
  rw [← UInt8.toNat_inj]
  split
  · rename_i hset
    have : flag.toNat ≠ 0 := fun hzero => hset (UInt8.toNat_inj.mp hzero)
    exact Nat.le_antisymm h (Nat.pos_of_ne_zero this)
  · rename_i hclear
    rw [not_not.mp hclear]

/-! ## The reader -/

theorem take_key_decodes :
    Decodes (take_key bucket) PersistedWorkKey.encoding
      fun key => key.Storable bucket ∧ key.settled = key := by
  intro input key rest
  constructor
  · intro h
    simp only [take_key, Option.bind_eq_bind, Option.bind_eq_some_iff, Prod.exists, take8_iff,
      Option.ite_none_left_eq_some] at h
    obtain ⟨present, behind, rfl, hflag, h⟩ := h
    split_ifs at h with hzero
    · cases h
      exact ⟨⟨nofun, rfl⟩, by rw [hzero]; rfl⟩
    · rw [flag_eq hflag, if_pos hzero]
      simp only [Option.bind_eq_some_iff, Prod.exists, take8_iff, takeBytes_iff,
        Option.ite_none_right_eq_some] at h
      obtain ⟨id, behind, rfl, hbucket, bytes, behind, rfl, h⟩ := h
      cases h
      exact ⟨⟨fun _ => hbucket, rfl⟩, rfl⟩
  · obtain ⟨present, id, bytes⟩ := key
    rintro ⟨⟨hstorable, hsettled⟩, rfl⟩
    cases present with
    | false =>
      rw [← hsettled]
      rfl
    | true =>
      have hbucket : in_bucket id bucket = true := hstorable rfl
      simp [take_key, PersistedWorkKey.encoding, hbucket]

theorem PersistedWorkKeyGroup.settled_iff (entry : PersistedWorkKeyGroup) :
    entry.settled = entry ↔ ∀ bucket, (entry.keys bucket).settled = entry.keys bucket := by
  obtain ⟨updated, number, lastMessage, keys⟩ := entry
  simp [PersistedWorkKeyGroup.settled, funext_iff]

theorem take_group_decodes :
    Decodes (take_group g) (PersistedWorkKeyGroup.encoding g)
      fun entry => entry.Storable ∧ entry.settled = entry := by
  have hkeys := take_all_decodes take_key_decodes fun _ => {}
  intro input entry rest
  dsimp only
  rw [PersistedWorkKeyGroup.settled_iff]
  constructor
  · intro h
    simp only [take_group, Option.bind_eq_bind, Option.bind_eq_some_iff, Prod.exists, take8_iff,
      take16_iff, takeBytes_iff, Option.ite_none_left_eq_some] at h
    obtain ⟨group, _, rfl, hgroup, updated, _, rfl, hflag, number, _, rfl, size, _, rfl, hsmall,
      lastMessage, _, rfl, keys, _, htake, h⟩ := h
    obtain ⟨hvalid, rfl⟩ := (hkeys _ _ _).mp htake
    cases h
    have hlength : lastMessage.val.length ≤ 256 := by
      rw [lastMessage.property]
      exact UInt16.not_lt.mp hsmall
    refine ⟨⟨⟨hlength, fun bucket => (hvalid bucket).1⟩, fun bucket => (hvalid bucket).2⟩, ?_⟩
    rw [not_not.mp hgroup, flag_eq hflag]
    simp [PersistedWorkKeyGroup.encoding, lastMessage.property]
  · obtain ⟨updated, number, lastMessage, keys⟩ := entry
    rintro ⟨⟨⟨hmessage, hstorable⟩, hsettled⟩, rfl⟩
    have hlength : (UInt16.ofNat lastMessage.length).toNat = lastMessage.length :=
      UInt16.toNat_ofNat_of_lt' (hmessage.trans_lt (by decide))
    have hsmall : ¬ UInt16.ofNat lastMessage.length > 256 := by
      rw [gt_iff_lt, UInt16.lt_iff_toNat_lt, hlength]
      exact not_lt.mpr hmessage
    have htake := (hkeys _ keys rest).mpr ⟨fun bucket => ⟨hstorable bucket, hsettled bucket⟩, rfl⟩
    have hblock := takeBytes_append ⟨lastMessage, hlength.symm⟩
    simp only [take_group, PersistedWorkKeyGroup.encoding, cons_append, append_assoc,
      take8_cons, take16_append, hblock, htake, Option.bind_eq_bind, Option.bind_some,
      ne_eq, hsmall]
    cases updated <;> rfl

/-- The bytes of a file are read as a state exactly if they are its encoding. -/
theorem parse_iff (cardId : CardId) (input : Bytes) (state : YakisobaPersistentState) :
    parse cardId input = some state ↔
      state.Storable ∧ state.settled = state ∧ state.cardId = cardId ∧ input = state.encoding := by
  have hgroups := take_all_decodes take_group_decodes fun _ => {}
  obtain ⟨own, groups⟩ := state
  have hsettled : (YakisobaPersistentState.mk own groups).settled = ⟨own, groups⟩ ↔
      ∀ g, (groups g).settled = groups g := by
    simp [YakisobaPersistentState.settled, funext_iff]
  rw [hsettled]
  constructor
  · intro h
    simp only [parse, Option.bind_eq_bind, Option.bind_eq_some_iff, Prod.exists, takeBytes_iff,
      Option.ite_none_left_eq_some] at h
    obtain ⟨magic, _, rfl, hmagic, parsed, _, rfl, hcard, filled, _, htake, hend, h⟩ := h
    obtain ⟨hvalid, rfl⟩ := (hgroups _ _ _).mp htake
    cases h
    refine ⟨fun g => (hvalid g).1, fun g => (hvalid g).2, not_not.mp hcard, ?_⟩
    rw [not_not.mp hmagic, not_not.mp hend, append_nil]
    rfl
  · rintro ⟨hstorable, hsettled, rfl, rfl⟩
    have htake := (hgroups _ groups []).mpr ⟨fun g => ⟨hstorable g, hsettled g⟩, rfl⟩
    rw [append_nil] at htake
    simp only [parse, YakisobaPersistentState.encoding, takeBytes_append, Option.bind_eq_bind,
      Option.bind_some, htake, ne_eq, not_true_eq_false, if_false]

/-! ## The writer -/

theorem appendBytes.spec {data : Bytes} (h : appendBytes data out = some out') :
    out' = out ++ data := by
  unfold appendBytes at h
  split at h
  · contradiction
  · exact (Option.some.inj h).symm

theorem appendBytes_room {data : Bytes} (h : out.length + data.length ≤ kMaxStateSize) :
    appendBytes data out = some (out ++ data) :=
  if_neg (by omega)

theorem PersistedWorkKey.storable_of_put {bucket : Fin kYakisobaKeyBuckets} {key : PersistedWorkKey}
    (h : put_key bucket key out = some out') : key.Storable bucket := by
  intro hpresent
  unfold put_key at h
  simp only [hpresent, Bool.not_true, Bool.false_eq_true, if_false] at h
  split at h
  · assumption
  · contradiction

theorem put_key_appends {bucket : Fin kYakisobaKeyBuckets} {key : PersistedWorkKey}
    (h : key.Storable bucket) : Appends kMaxStateSize (put_key bucket key) key.encoding := by
  obtain ⟨present, id, bytes⟩ := key
  cases present with
  | false => exact ⟨fun out _ => rfl, fun out out' hput => (Option.some.inj hput).symm⟩
  | true =>
    have hput (out : Bytes) : put_key bucket ⟨true, id, bytes⟩ out =
        appendBytes bytes.val (out ++ [1] ++ [id]) :=
      if_pos (h rfl)
    refine ⟨fun out hroom => ?_, fun out out' hsome => ?_⟩
    · simp only [PersistedWorkKey.encoding, if_true, length_cons] at hroom
      rw [hput, appendBytes_room (by simp only [length_append, length_singleton]; omega)]
      simp [PersistedWorkKey.encoding]
    · rw [hput] at hsome
      rw [appendBytes.spec hsome]
      simp [PersistedWorkKey.encoding]

theorem PersistedWorkKeyGroup.storable_of_put {g : Fin 6} (h : put_group g entry out = some out') :
    entry.Storable := by
  unfold put_group at h
  dsimp only at h
  split at h
  · contradiction
  rename_i hmessage
  obtain ⟨behind, -, hkeys⟩ := Option.bind_eq_some_iff.mp h
  refine ⟨Nat.le_of_not_gt hmessage, fun bucket => ?_⟩
  obtain ⟨before, behind, hput⟩ := put_all_each hkeys bucket
  exact PersistedWorkKey.storable_of_put hput

theorem put_group_appends {g : Fin 6} (h : entry.Storable) :
    Appends kMaxStateSize (put_group g entry) (entry.encoding g) := by
  have hkeys := put_all_appends fun bucket => put_key_appends (h.keys bucket)
  refine ⟨fun out hroom => ?_, fun out out' hput => ?_⟩
  · simp only [PersistedWorkKeyGroup.encoding, encode_all, put16, length_cons,
      length_append] at hroom
    unfold put_group
    dsimp only
    rw [if_neg (not_lt.mpr h.message), appendBytes_room, Option.bind_eq_bind, Option.bind_some,
      hkeys.appends]
    · simp [PersistedWorkKeyGroup.encoding, encode_all]
    all_goals
      simp only [put16, length_cons, length_append]
      omega
  · unfold put_group at hput
    rw [if_neg (not_lt.mpr h.message)] at hput
    obtain ⟨behind, hmessage, hput⟩ := Option.bind_eq_some_iff.mp hput
    rw [hkeys.only _ _ hput, appendBytes.spec hmessage]
    simp [PersistedWorkKeyGroup.encoding, encode_all]

theorem PersistedWorkKeyGroup.length_encoding_le (h : entry.Storable) :
    (entry.encoding g).length ≤ 362 := by
  have hkeys : (encode_all (fun _ => PersistedWorkKey.encoding) entry.keys).length ≤ 10 * 10 := by
    refine length_encode_all_le fun bucket => ?_
    unfold PersistedWorkKey.encoding
    split
    · simp [(entry.keys bucket).key.property]
    · simp
  have hmessage := h.message
  simp only [PersistedWorkKeyGroup.encoding, put16, length_cons, length_append,
    length_nil]
  omega

/-- Every state that can be written fits the size limit. -/
theorem YakisobaPersistentState.length_encoding_le {state : YakisobaPersistentState}
    (h : state.Storable) : state.encoding.length ≤ kMaxStateSize := by
  have hgroups : (encode_all PersistedWorkKeyGroup.encoding state.groups).length ≤ 6 * 362 :=
    length_encode_all_le fun g => PersistedWorkKeyGroup.length_encoding_le g (h g)
  simp only [YakisobaPersistentState.encoding, length_append, kMagic.property,
    state.cardId.property, kMaxStateSize]
  omega

/-- A state is written exactly if its messages and its keys can be, and then as its encoding. -/
theorem serialize_iff (bytes : Bytes) :
    serialize state = some bytes ↔ state.Storable ∧ bytes = state.encoding := by
  have hmagic : appendBytes kMagic.val [] = some kMagic.val := rfl
  have hcard : appendBytes state.cardId.val kMagic.val = some (kMagic.val ++ state.cardId.val) :=
    appendBytes_room (by simp [kMagic.property, state.cardId.property, kMaxStateSize])
  simp only [serialize, hmagic, hcard, Option.bind_eq_bind, Option.bind_some]
  constructor
  · intro h
    obtain ⟨out, hout, h⟩ := Option.bind_eq_some_iff.mp h
    have hstorable : state.Storable := fun g =>
      PersistedWorkKeyGroup.storable_of_put (put_all_each hout g).choose_spec.choose_spec
    split at h
    · contradiction
    cases h
    have hgroups := put_all_appends fun g => put_group_appends (g := g) (hstorable g)
    refine ⟨hstorable, ?_⟩
    rw [hgroups.only _ _ hout]
    rfl
  · rintro ⟨hstorable, rfl⟩
    have hsize := YakisobaPersistentState.length_encoding_le hstorable
    have hgroups := put_all_appends fun g => put_group_appends (g := g) (hstorable g)
    rw [hgroups.appends _ (by rw [← length_append]; exact hsize)]
    exact if_neg (not_lt.mpr hsize)

/-! ## The store -/

theorem YakisobaPersistentState.encoding_settled : state.settled.encoding = state.encoding := by
  have hkey (key : PersistedWorkKey) : key.settled.encoding = key.encoding := by
    obtain ⟨present, id, bytes⟩ := key
    cases present <;> rfl
  simp only [YakisobaPersistentState.encoding, YakisobaPersistentState.settled, encode_all,
    PersistedWorkKeyGroup.encoding, PersistedWorkKeyGroup.settled, hkey]
  rfl

theorem YakisobaPersistentState.settled_storable {state : YakisobaPersistentState}
    (h : state.Storable) : state.settled.Storable := by
  refine fun g => ⟨(h g).message, fun bucket hpresent => ?_⟩
  have hkey := (h g).keys bucket
  simp only [YakisobaPersistentState.settled, PersistedWorkKeyGroup.settled,
    PersistedWorkKey.settled] at hpresent ⊢
  split
  · rename_i hset
    exact hkey hset
  · rename_i hclear
    simp [hclear] at hpresent

theorem YakisobaPersistentState.settled_settled : state.settled.settled = state.settled := by
  have hkey (key : PersistedWorkKey) : key.settled.settled = key.settled := by
    obtain ⟨present, id, bytes⟩ := key
    cases present <;> rfl
  simp only [YakisobaPersistentState.settled, PersistedWorkKeyGroup.settled, hkey]

theorem cardId_eq_of_encoding {state state' : YakisobaPersistentState}
    (h : state.encoding = state'.encoding) : state.cardId = state'.cardId := by
  have hbehind := append_cancel_left h
  have hlength : state.cardId.val.length = state'.cardId.val.length := by
    rw [state.cardId.property, state'.cardId.property]
  exact Subtype.ext (append_inj hbehind hlength).1

/-- A file that was written from a state is read as that state, by its own card. -/
theorem parse_serialize {state : YakisobaPersistentState} {bytes : Bytes}
    (h : serialize state = some bytes) (cardId : CardId) :
    parse cardId bytes = if state.cardId = cardId then some state.settled else none := by
  obtain ⟨hstorable, rfl⟩ := (serialize_iff state bytes).mp h
  split_ifs with hcard
  · exact (parse_iff _ _ _).mpr ⟨YakisobaPersistentState.settled_storable hstorable,
      state.settled_settled, hcard, state.encoding_settled.symm⟩
  cases hparse : parse cardId state.encoding with
  | none => rfl
  | some other =>
    obtain ⟨-, -, hother, hencoding⟩ := (parse_iff _ _ _).mp hparse
    exact absurd ((cardId_eq_of_encoding hencoding).trans hother) hcard

/-- What `load` makes of a file that is there and can be read. -/
theorem load_some (cardId : CardId) (state : YakisobaPersistentState) :
    load (some input) true cardId (some state) =
      match parse cardId input with
      | none => (.Error, some state)
      | some parsed => (.Ok, some parsed) := by
  unfold load
  simp only [Option.isNone_some, Bool.false_eq_true, if_false, Bool.not_true]
  split
  · rename_i hsize
    cases hparse : parse cardId input with
    | none => rfl
    | some parsed =>
      -- an encoding is neither empty nor too long
      obtain ⟨hstorable, -, -, rfl⟩ := (parse_iff _ _ _).mp hparse
      have hle := YakisobaPersistentState.length_encoding_le hstorable
      simp only [YakisobaPersistentState.encoding, length_append, kMagic.property] at hsize hle
      omega
  · rfl

theorem load.spec {state : YakisobaPersistentState} {bytes : Bytes}
    (h : serialize state = some bytes) (readable : Bool) (cardId : CardId)
    (output : YakisobaPersistentState) :
    load (some bytes) readable cardId (some output) =
      if readable ∧ state.cardId = cardId then (.Ok, some state.settled)
      else (.Error, some output) := by
  cases readable with
  | false => rfl
  | true =>
    rw [load_some, parse_serialize h]
    by_cases hcard : state.cardId = cardId <;> simp [hcard]

theorem commit.cases :
    commit file calls state = (file, .Unchanged) ∨
      ∃ bytes, serialize state = some bytes ∧
        (commit file calls state = (some bytes, .Ok) ∨
          commit file calls state =
            (if calls.lasts then some bytes else file, .OutcomeUnknown)) := by
  unfold commit
  split
  · exact .inl rfl
  rename_i output houtput
  split
  · exact .inl rfl
  split
  · exact .inl rfl
  refine .inr ⟨output, houtput, ?_⟩
  split
  · exact .inl rfl
  · exact .inr rfl

/-- Every state that can be written is read back by its card, with the default for each key that is
absent, and every string of bytes is the encoding of the state that a card reads from it, or is
refused by that card and leaves the state alone. -/
theorem load_inverts_commit :
    (∀ state file output, state.Storable →
      ∃ bytes, commit file {} state = (some bytes, .Ok) ∧
        load (some bytes) true state.cardId (some output) = (.Ok, some state.settled)) ∧
    ∀ bytes cardId output,
      (∃ state, state.Storable ∧ state.settled = state ∧ state.cardId = cardId ∧
        serialize state = some bytes ∧
        load (some bytes) true cardId (some output) = (.Ok, some state)) ∨
      (∀ state, state.cardId = cardId → serialize state ≠ some bytes) ∧
        load (some bytes) true cardId (some output) = (.Error, some output) := by
  refine ⟨fun state file output hstorable => ?_, fun bytes cardId output => ?_⟩
  · have hserialize := (serialize_iff state _).mpr ⟨hstorable, rfl⟩
    refine ⟨state.encoding, ?_, ?_⟩
    · simp [commit, hserialize]
    · rw [load.spec hserialize, if_pos ⟨rfl, rfl⟩]
  · rw [load_some]
    cases hparse : parse cardId bytes with
    | some state =>
      obtain ⟨hstorable, hsettled, hcard, hencoding⟩ := (parse_iff _ _ _).mp hparse
      exact .inl ⟨state, hstorable, hsettled, hcard,
        (serialize_iff _ _).mpr ⟨hstorable, hencoding⟩, rfl⟩
    | none =>
      refine .inr ⟨fun state hcard hserialize => ?_, rfl⟩
      rw [parse_serialize hserialize, if_pos hcard] at hparse
      contradiction

end

namespace OneKey

def key : PersistedWorkKey := { present := true, id := 31 }

def state : YakisobaPersistentState where
  groups _ := { updated := true, number := 7, lastMessage := [1, 2, 3]
                keys := Function.update (fun _ => {}) 1 key }

theorem storable : state.Storable := by
  refine fun g => ⟨Nat.le_of_ble_eq_true rfl, fun bucket hpresent => ?_⟩
  by_cases hbucket : bucket = 1
  · subst hbucket
    simp only [state]
    decide
  · simp [state, Function.update_of_ne hbucket] at hpresent

theorem the_key_is_read_back :
    state.Storable ∧ ∃ bytes, commit none {} state = (some bytes, .Ok) ∧
      load (some bytes) true state.cardId (some {}) = (.Ok, some state.settled) :=
  ⟨storable, load_inverts_commit.1 state none {} storable⟩

end OneKey

end maleicacid.cas
