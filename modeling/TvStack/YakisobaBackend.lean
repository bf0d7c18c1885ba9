-- The backend of the CAS service. It decodes the messages of the card, keeps what
-- they bring in a file before the keys are registered, and gives up for good when
-- it does not know what was kept. The B-CAS library, the file system and the lock
-- come in as what they answer.
import TvStack.KeyRegistry
import TvStack.Loops
import TvStack.YakisobaState

open Loops Machines Words

namespace maleicacid.cas

/-! ## What the backend calls -/

/-- Data that may be a null pointer. -/
abbrev View := Option Bytes

structure EmmMessage where
  payload : View
  individual : Bool

/-- The B-CAS library, with a table of keys of any kind. -/
structure Yakisoba (κ : Type) where
  /-- The first call of `GetCardId`, which reads the input. -/
  read_input : κ → Bytes → CardId × κ
  GetKey : κ → UInt8 → UInt8 → Option Secret8
  /-- The table after it, and whether it returned 0. -/
  Register : κ → UInt8 → UInt8 → Secret8 → κ × Bool
  bcas_decodeECM : κ → Bytes → Int × Secret16
  bcas_decodeEMM : CardId → Bytes → Bool → Int × Block 256

/-- What `open`, `fstat` and `pread` give for the file of the credentials. -/
structure Credential where
  regular : Bool
  st_size : Int
  content : Bytes

/-- How the calls to the system turn out that one call of the backend makes. -/
structure Surroundings where
  try_lock_for : Bool
  credential : Option Credential
  fmemopen : Bool
  readable : Bool
  /-- For the message at each position. -/
  commits : Nat → CommitCalls
  readerFd : Int

def kMaxCredentialSize : Nat := 16384

def EINVAL : Int := 22
def ENOMSG : Int := 42
def EILSEQ : Int := 84
def ENOKEY : Int := 126

def groupIndex (group : UInt8) : Option (Fin 6) :=
  (List.finRange 6).find? fun g => kYakisobaGroups g = group

def protocolSupported (protocol : UInt8) : Bool := protocol &&& ~~~0x4c = 0

def decodeResult (result : Int) : Result :=
  if result = 0 then .Ok
  else if result = -EINVAL then .BadValue
  else if result = -EILSEQ then .Decrypt
  else if result = -ENOKEY then .NoLicense
  else .Unknown

def validInputFile (info : Credential) : Bool :=
  info.regular && info.st_size > 0 && info.st_size ≤ kMaxCredentialSize

/-- `std::copy_n` from a buffer that is long enough. -/
def block_at (n : Nat) (bytes : Bytes) (start : Nat) : Block n :=
  ⟨(List.range n).map fun i => byte bytes (start + i), by simp⟩

/-! ## The state -/

/-- A message that has come into the file. -/
structure Applied where
  group : Fin 6
  number : UInt16
  message : Bytes
  /-- The ids that it handed to `Register`. -/
  registered : List UInt8

/-- The backend with the file of its store, the library and the registry. -/
structure YakisobaBackend (κ : Type) where
  initialized : Bool := false
  revoked : Bool := false
  state : YakisobaPersistentState := {}
  file : Option Bytes := none
  /-- What `GetCardId` returns once the library has read its input. -/
  card : CardId := .zero 6
  keys : κ
  registry : KeyRegistry := {}
  /-- The messages that came into the file, over all restarts. -/
  history : List Applied := []
  /-- Whether this process has met a commit of unknown outcome or a `Register` that failed. -/
  trouble : Bool := false

variable {κ : Type} (lib : Yakisoba κ) (keys : κ)

/-- The loops that look for a key in the way: a later one of the bucket, or another one of the id.
If there is none, whether the key is registered already. -/
def probe (group : UInt8) (bucket : Fin kYakisobaKeyBuckets) (key : PersistedWorkKey) :
    Option Bool :=
  ((List.range 255).filter (· % kYakisobaKeyBuckets = bucket.val)).foldlM (fun exact id =>
    match lib.GetKey keys group (UInt8.ofNat id) with
    | none => some exact
    | some previous =>
      if id > key.id.toNat then none
      else if id = key.id.toNat then if previous ≠ key.key then none else some true
      else some exact) false

namespace YakisobaBackend

def failClosed (s : YakisobaBackend κ) : YakisobaBackend κ × Result :=
  ({ s with revoked := true, registry := s.registry.revokeAll }, .Revoked)

/-! ## The start -/

variable (lib : Yakisoba κ)

/-- One turn of the loops of `restorePersistentState`. It fails with the table, and with whether
`Register` failed. -/
def restore_key (group : UInt8) (bucket : Fin kYakisobaKeyBuckets) (keys : κ)
    (saved : PersistedWorkKey) : Except (κ × Bool) κ :=
  if !saved.present then .ok keys
  else
    match probe lib keys group bucket saved with
    | none => .error (keys, false)
    | some true => .ok keys
    | some false =>
      match lib.Register keys group saved.id saved.key with
      | (keys, true) => .ok keys
      | (keys, false) => .error (keys, true)

def restore_keys (restored : YakisobaPersistentState) (keys : κ) : Except (κ × Bool) κ :=
  (List.finRange 6).foldlM (fun keys g =>
    (List.finRange kYakisobaKeyBuckets).foldlM (fun keys bucket =>
      restore_key lib (kYakisobaGroups g) bucket keys ((restored.groups g).keys bucket)) keys) keys

def restorePersistentState (readable : Bool) (s : YakisobaBackend κ) (cardId : CardId) :
    YakisobaBackend κ × Result :=
  match load s.file readable cardId (some {}) with
  | (.Missing, _) => ({ s with state := { s.state with cardId } }, .Ok)
  | (.Ok, some restored) =>
    match restore_keys lib restored s.keys with
    | .error (keys, refused) => { s with keys, trouble := s.trouble || refused }.failClosed
    | .ok keys => ({ s with keys, state := restored }, .Ok)
  | _ => s.failClosed

variable (env : Surroundings) (s : YakisobaBackend κ)

def initialize_backend : YakisobaBackend κ × Result :=
  if s.revoked then (s, .Revoked)
  else if s.initialized then (s, .Ok)
  else
    match env.credential with
    | none => (s, .NotProvisioned)
    | some info =>
      if !validInputFile info then (s, .NotProvisioned)
      else if info.content.length ≠ info.st_size then (s, .NotProvisioned)
      else
        let (card, keys) := lib.read_input s.keys info.content
        let s := { s with card, keys }
        if !env.fmemopen then s.failClosed
        else
          match restorePersistentState lib env.readable s card with
          | (s, .Ok) => ({ s with initialized := true }, .Ok)
          | failed => failed

/-! ## The messages -/

def processEcm (slot : Option Nat) (payload : View) : YakisobaBackend κ × Result :=
  match slot, payload with
  | some id, some payload =>
    if payload.length < 30 ∨ payload.length > 256 then (s, .BadValue)
    else if !env.try_lock_for then (s, .Busy)
    else
      match s.initialize_backend lib env with
      | (s, .Ok) =>
        if groupIndex (byte payload 1) = none ∨ !protocolSupported (byte payload 0) then
          (s, .Unsupported)
        else
          let (decoded, keys) := lib.bcas_decodeECM s.keys payload
          match decodeResult decoded with
          | .Ok =>
            -- a session holds the slot that it gives
            let (registry, result) := s.registry.call (.Update id keys (byte payload 1))
            ({ s with registry }, result.getD .BadValue)
          | failed => (s, failed)
      | failed => failed
  | _, _ => (s, .BadValue)

end YakisobaBackend

/-- What a message is about. -/
structure Decoded where
  group : Fin 6
  number : UInt16
  plain : Block 256

/-- The checks of `applyMessage` that come before the number, and what the message says. -/
def decode_message (card : CardId) (payload : Bytes) (individual : Bool) : Except Result Decoded :=
  if payload.take 6 ≠ card.val then .error .Ok
  else
    let protocol := byte payload (if individual then 8 else 7)
    if !protocolSupported protocol && !(individual && protocol = 0xff) then .error .Unsupported
    else
      let (decoded, plain) := lib.bcas_decodeEMM card payload individual
      if decoded = -ENOMSG then .error .Ok
      else
        match decodeResult decoded with
        | .Ok =>
          if individual then .error .Unsupported
          else if plain.val.take 6 ≠ card.val ∨ (byte plain.val 6).toNat + 7 ≠ payload.length then
            .error .BadValue
          else
            match groupIndex (byte plain.val 8) with
            | none => .error .Unsupported
            | some group =>
              .ok { group, number := be16 (byte plain.val 9) (byte plain.val 10), plain }
        | failed => .error failed

/-- An update of a work key, and whether the library has it already. -/
structure Update where
  key : PersistedWorkKey
  duplicate : Bool

/-- The variables of the loop over the updates of a message. -/
structure UpdateLoop where
  p : Nat
  updates : List Update
  buckets : Fin kYakisobaKeyBuckets → Bool
  /-- The result with which the loop was left. -/
  failed : Option Result

/-- One turn of the loop. The updates end at `limit`. -/
def read_update (plain : Bytes) (limit : Nat) (loop : UpdateLoop) : ForInStep UpdateLoop :=
  let leave (result : Result) : ForInStep UpdateLoop := .done { loop with failed := some result }
  if loop.p < limit then
    if limit - loop.p < 2 then leave .BadValue
    else
      let tag := byte plain loop.p
      let length := (byte plain (loop.p + 1)).toNat
      let p := loop.p + 2
      let id := byte plain p
      if length > limit - p then leave .BadValue
      else if tag ≠ 0x10 then leave .Unsupported
      else if length ≠ 9 ∨ id = 0xff ∨ loop.buckets (bucket_of id) then leave .BadValue
      else
        let key := { present := true, id, key := block_at 8 plain (p + 1) }
        match probe lib keys (byte plain 8) (bucket_of id) key with
        | none => leave .InvalidState
        | some duplicate =>
          .yield
            { loop with
              p := p + length
              updates := loop.updates ++ [{ key, duplicate }]
              buckets := Function.update loop.buckets (bucket_of id) true }
  else .done loop

def read_updates (plain : Bytes) (limit : Nat) : Except Result (List Update) :=
  let start : UpdateLoop := { p := 13, updates := [], buckets := fun _ => false, failed := none }
  let done := loop (read_update lib keys plain limit) (fun loop => limit - loop.p) start
  match done.failed with
  | some result => .error result
  | none => if done.updates = [] then .error .Unsupported else .ok done.updates

/-- The loop that registers the keys: the table, the ids that it handed over, and whether all of
them were accepted. -/
def register_all (lib : Yakisoba κ) (group : UInt8) : List Update → κ → κ × List UInt8 × Bool
  | [], keys => (keys, [], true)
  | update :: updates, keys =>
    if update.duplicate then register_all lib group updates keys
    else
      match lib.Register keys group update.key.id update.key.key with
      | (keys, false) => (keys, [update.key.id], false)
      | (keys, true) =>
        let (keys, ids, accepted) := register_all lib group updates keys
        (keys, update.key.id :: ids, accepted)

/-- The state that a message leads to. -/
def next_state (state : YakisobaPersistentState) (message : Bytes) (decoded : Decoded)
    (updates : List Update) : YakisobaPersistentState :=
  let entry := state.groups decoded.group
  let keys := updates.foldl (fun keys update =>
    Function.update keys (bucket_of update.key.id) update.key) entry.keys
  { state with
    groups := Function.update state.groups decoded.group
      { updated := true, number := decoded.number, lastMessage := message, keys } }

namespace YakisobaBackend

/-- `applyMessage` up to the commit: the result where it does not come to it. -/
def prepare (lib : Yakisoba κ) (s : YakisobaBackend κ) (payload : Bytes) (individual : Bool) :
    Except Result (Decoded × List Update) :=
  match decode_message lib s.card payload individual with
  | .error result => .error result
  | .ok decoded =>
    let persisted := s.state.groups decoded.group
    if persisted.updated && decoded.number ≤ persisted.number then
      let duplicate := decoded.number = persisted.number ∧ persisted.lastMessage = payload
      .error (if duplicate then .Ok else .InvalidState)
    else
      match read_updates lib s.keys decoded.plain.val (payload.length - 4) with
      | .error result => .error result
      | .ok updates => .ok (decoded, updates)

/-- The commit of `applyMessage`, and what comes behind it. -/
def settle (lib : Yakisoba κ) (calls : CommitCalls) (s : YakisobaBackend κ) (payload : Bytes)
    (decoded : Decoded) (updates : List Update) : YakisobaBackend κ × Result :=
  let next := next_state s.state payload decoded updates
  let applied (registered : List UInt8) : Applied :=
    { group := decoded.group, number := decoded.number, message := payload, registered }
  match commit s.file calls next with
  | (file, .Unchanged) => ({ s with file }, .Unknown)
  | (file, .OutcomeUnknown) =>
    { s with
      file
      history := if calls.lasts then s.history ++ [applied []] else s.history
      trouble := true }.failClosed
  | (file, .Ok) =>
    let (keys, registered, accepted) :=
      register_all lib (byte decoded.plain.val 8) updates s.keys
    let s := { s with file, keys, history := s.history ++ [applied registered] }
    if !accepted then { s with trouble := true }.failClosed
    else
      let registry := s.registry.invalidateGroup (byte decoded.plain.val 8)
      ({ s with state := next, registry }, .Ok)

def applyMessage (lib : Yakisoba κ) (calls : CommitCalls) (s : YakisobaBackend κ)
    (message : EmmMessage) : YakisobaBackend κ × Result :=
  let payload := message.payload.getD []
  match s.prepare lib payload message.individual with
  | .error result => (s, result)
  | .ok (decoded, updates) => s.settle lib calls payload decoded updates

end YakisobaBackend

/-- The checks of `processEmm` on a message. -/
def valid_message (message : EmmMessage) : Bool :=
  match message.payload with
  | none => false
  | some payload =>
    let minimum := if message.individual then 25 else 17
    let declared :=
      if message.individual then 8 + (be16 (byte payload 6) (byte payload 7)).toNat
      else 7 + (byte payload 6).toNat
    minimum ≤ payload.length && payload.length ≤ 256 && declared = payload.length

namespace YakisobaBackend

/-- The loop of `processEmm`, from the message at a position. -/
def apply_messages (lib : Yakisoba κ) (env : Surroundings) :
    YakisobaBackend κ → Nat → List EmmMessage → YakisobaBackend κ × Result
  | s, _, [] => (s, .Ok)
  | s, i, message :: messages =>
    match s.applyMessage lib (env.commits i) message with
    | (s, .Ok) => apply_messages lib env s (i + 1) messages
    | failed => failed

def processEmm (lib : Yakisoba κ) (env : Surroundings) (s : YakisobaBackend κ)
    (messages : List EmmMessage) : YakisobaBackend κ × Result :=
  if messages = [] then (s, .BadValue)
  else if !messages.all valid_message then (s, .BadValue)
  else if !env.try_lock_for then (s, .Busy)
  else
    match s.initialize_backend lib env with
    | (s, .Ok) => apply_messages lib env s 0 messages
    | failed => failed

/-- `bind`, with whether the pointer for the descriptor is there. -/
def bind (env : Surroundings) (s : YakisobaBackend κ) (token : Token) (readerFd : Bool) :
    Result × Int :=
  if !readerFd then (.BadValue, -1)
  else if !env.try_lock_for then (.Busy, -1)
  else if s.revoked then (.Revoked, -1)
  else if !s.initialized then (.NotProvisioned, -1)
  else s.registry.bind token env.readerFd

end YakisobaBackend

/-! ## The calls -/

/-- A call of the registry that is not made by the backend. -/
inductive SessionCall
  | Open (draws : List Draw)
  | Close (id : Nat)
  | Release (id : Nat)
  | RevokeAll

def SessionCall.to_registry : SessionCall → RegistryCall
  | .Open draws => .Open draws
  | .Close id => .Close id
  | .Release id => .Release id
  | .RevokeAll => .RevokeAll

inductive BackendCall (κ : Type)
  | ProcessEcm (env : Surroundings) (slot : Option Nat) (payload : View)
  | ProcessEmm (env : Surroundings) (messages : List EmmMessage)
  | Bind (env : Surroundings) (token : Token) (readerFd : Bool)
  | Session (call : SessionCall)
  /-- The process ends, and another one starts with a library that has read nothing. -/
  | Restart (keys : κ)

namespace YakisobaBackend

/-- A call, and the result of those that have one here. The calls hold the mutex. -/
def call (lib : Yakisoba κ) (s : YakisobaBackend κ) :
    BackendCall κ → YakisobaBackend κ × Option Result
  | .ProcessEcm env slot payload =>
    let (s, result) := s.processEcm lib env slot payload
    (s, some result)
  | .ProcessEmm env messages =>
    let (s, result) := s.processEmm lib env messages
    (s, some result)
  | .Bind env token readerFd => (s, some (s.bind env token readerFd).1)
  | .Session call => ({ s with registry := (s.registry.call call.to_registry).1 }, none)
  | .Restart keys => ({ keys, file := s.file, history := s.history }, none)

end YakisobaBackend

end maleicacid.cas
