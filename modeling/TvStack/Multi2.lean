-- The MULTI2 cipher of the descrambler: the block functions, the key schedule,
-- and the payload mode, which chains whole blocks and takes a keystream for the
-- 0 to 7 bytes behind them. Encryption and decryption undo each other.
import Mathlib.Data.List.TakeDrop
import Mathlib.Tactic.IntervalCases

namespace tuner_hal2_descrambler

def DEFAULT_MULTI2_ROUNDS : Nat := 4

/-- `[u8; n]` -/
abbrev Bytes (n : Nat) := { bytes : List UInt8 // bytes.length = n }

structure Multi2KeyMaterial where
  system_key : Bytes 32
  (cbc_iv data_key : Bytes 8)
  rounds : Nat

structure PreparedMulti2Key where
  cbc_iv : UInt32 × UInt32
  work_key : Vector UInt32 8
  rounds : Nat

inductive Multi2PrepareError
  | InvalidRoundsZero
  deriving DecidableEq

structure Block where
  left : UInt32
  right : UInt32

/-! ## The Rust functions -/

/-- `p[i]`, at an index that is in bounds where it is used. -/
def at_byte (p : List UInt8) (i : Nat) : UInt32 := (p.getD i 0).toUInt32

def load_be (p : List UInt8) : UInt32 :=
  (at_byte p 0 <<< 24) ||| (at_byte p 1 <<< 16) ||| (at_byte p 2 <<< 8) ||| at_byte p 3

variable (v : UInt32)

def store_be : List UInt8 :=
  [((v >>> 24) &&& 0xff).toUInt8, ((v >>> 16) &&& 0xff).toUInt8, ((v >>> 8) &&& 0xff).toUInt8,
    (v &&& 0xff).toUInt8]

/-- `v.rotate_left(n)`, for `0 < n < 32`. -/
def rot (n : UInt32) (v : UInt32) : UInt32 := (v <<< n) ||| (v >>> (32 - n))

def rot1_sub : UInt32 := v + (v >>> 31)

def rot1_add_dec : UInt32 := rot 1 v + v - 1

namespace Block

def load (p : List UInt8) : Block :=
  { left := load_be (p.take 4), right := load_be ((p.drop 4).take 4) }

def store (b : Block) : List UInt8 := store_be b.left ++ store_be b.right

def xor (b other : Block) : Block :=
  { left := b.left ^^^ other.left, right := b.right ^^^ other.right }

def cbc_post_decrypt (b ciphertext state : Block) : Block × Block := (b.xor state, ciphertext)

end Block

variable (b : Block) (p : Block) (wk : Vector UInt32 8) (rounds : Nat)

def pi1 : Block := { left := p.left, right := p.right ^^^ p.left }

def pi2 (k1 : UInt32) : Block :=
  let x := p.right
  let y := x + k1
  let z := rot1_add_dec y
  { left := p.left ^^^ rot 4 z ^^^ z, right := p.right }

def pi3 (k2 k3 : UInt32) : Block :=
  let x := p.left
  let y := x + k2
  let z := rot 2 y + y + 1
  let a := rot 8 z ^^^ z
  let b := a + k3
  let c := rot1_sub b
  { left := p.left, right := p.right ^^^ rot 16 c ^^^ (c ||| x) }

def pi4 (k4 : UInt32) : Block :=
  let x := p.right
  let y := x + k4
  { left := p.left ^^^ (rot 2 y + y + 1), right := p.right }

def encrypt_round : Block :=
  let b := pi1 b
  let b := pi2 b wk[0]
  let b := pi3 b wk[1] wk[2]
  let b := pi4 b wk[3]
  let b := pi1 b
  let b := pi2 b wk[4]
  let b := pi3 b wk[5] wk[6]
  pi4 b wk[7]

def decrypt_round : Block :=
  let b := pi4 b wk[7]
  let b := pi3 b wk[5] wk[6]
  let b := pi2 b wk[4]
  let b := pi1 b
  let b := pi4 b wk[3]
  let b := pi3 b wk[1] wk[2]
  let b := pi2 b wk[0]
  pi1 b

def cipher_encrypt : Block := (encrypt_round · wk)^[rounds] b

def cipher_decrypt : Block := (decrypt_round · wk)^[rounds] b

def schedule (dk : UInt32 × UInt32) (sk : Vector UInt32 8) : Vector UInt32 8 :=
  let a0 := pi1 { left := dk.1, right := dk.2 }
  let a1 := pi2 a0 sk[0]
  let a2 := pi3 a1 sk[1] sk[2]
  let a3 := pi4 a2 sk[3]
  let a4 := pi1 a3
  let a5 := pi2 a4 sk[4]
  let a6 := pi3 a5 sk[5] sk[6]
  let a7 := pi4 a6 sk[7]
  let a8 := pi1 a7
  #v[a1.left, a2.right, a3.left, a4.right, a5.left, a6.right, a7.left, a8.right]

def parse_system_key (bytes : Bytes 32) : Vector UInt32 8 :=
  Vector.ofFn fun i => load_be ((bytes.val.drop (i * 4)).take 4)

def Multi2KeyMaterial.new (system_key : Bytes 32) (cbc_iv data_key : Bytes 8) : Multi2KeyMaterial :=
  { system_key, cbc_iv, data_key, rounds := DEFAULT_MULTI2_ROUNDS }

def Multi2KeyMaterial.prepare (m : Multi2KeyMaterial) :
    Except Multi2PrepareError PreparedMulti2Key :=
  if m.rounds = 0 then .error .InvalidRoundsZero
  else
    let system_key := parse_system_key m.system_key
    let data_key := (load_be (m.data_key.val.take 4), load_be ((m.data_key.val.drop 4).take 4))
    .ok
      { cbc_iv := (load_be (m.cbc_iv.val.take 4), load_be ((m.cbc_iv.val.drop 4).take 4))
        work_key := schedule data_key system_key
        rounds := m.rounds }

/-- The bytes behind the last whole block, in both directions: they are padded to a block, and
xored with the encrypted state. -/
def tail_ofb (rem : List UInt8) (state : Block) (key : Vector UInt32 8) (rounds : Nat) :
    List UInt8 :=
  if rem.isEmpty then []
  else
    let t := rem ++ List.replicate (8 - rem.length) 0
    let p := Block.load t
    let c := p.xor (cipher_encrypt state key rounds)
    c.store.take rem.length

/-- The loop over `chunks` whole blocks, then the remainder. A block and the state give the block
that is stored and the next state. -/
def over_chunks (step : Block → Block → Block × Block) (key : Vector UInt32 8) (rounds : Nat) :
    Nat → Block → List UInt8 → List UInt8
  | 0, state, rem => tail_ofb rem state key rounds
  | chunks + 1, state, buf =>
    let r := step (Block.load (buf.take 8)) state
    r.1.store ++ over_chunks step key rounds chunks r.2 (buf.drop 8)

def encrypt_chunk (key : Vector UInt32 8) (rounds : Nat) (p state : Block) : Block × Block :=
  let c := cipher_encrypt (p.xor state) key rounds
  (c, c)

def encrypt_cbc_ofb (buf : List UInt8) (iv : UInt32 × UInt32) (key : Vector UInt32 8)
    (rounds : Nat) : List UInt8 :=
  over_chunks (encrypt_chunk key rounds) key rounds (buf.length / 8) ⟨iv.1, iv.2⟩ buf

def decrypt_chunk (key : Vector UInt32 8) (rounds : Nat) (c state : Block) : Block × Block :=
  (cipher_decrypt c key rounds).cbc_post_decrypt c state

def decrypt_cbc_ofb (buf : List UInt8) (iv : UInt32 × UInt32) (key : Vector UInt32 8)
    (rounds : Nat) : List UInt8 :=
  over_chunks (decrypt_chunk key rounds) key rounds (buf.length / 8) ⟨iv.1, iv.2⟩ buf

variable (payload : List UInt8)

def multi2_encrypt_payload (key : PreparedMulti2Key) : List UInt8 :=
  encrypt_cbc_ofb payload key.cbc_iv key.work_key key.rounds

def multi2_decrypt_payload (key : PreparedMulti2Key) : List UInt8 :=
  decrypt_cbc_ofb payload key.cbc_iv key.work_key key.rounds

/-! ## The block functions -/

/-- A half that is xored with the same two words again comes back. -/
theorem xor_twice (h a b : UInt32) : (h ^^^ a ^^^ b) ^^^ a ^^^ b = h := by
  rw [UInt32.xor_assoc h a b, UInt32.xor_assoc _ a b, UInt32.xor_assoc h, UInt32.xor_self,
    UInt32.xor_zero]

theorem pi1_pi1 : pi1 (pi1 p) = p := by
  simp only [pi1, UInt32.xor_assoc, UInt32.xor_self, UInt32.xor_zero]

theorem pi2_pi2 (k1 : UInt32) : pi2 (pi2 p k1) k1 = p := by
  simp only [pi2, xor_twice]

theorem pi3_pi3 (k2 k3 : UInt32) : pi3 (pi3 p k2 k3) k2 k3 = p := by
  simp only [pi3, xor_twice]

theorem pi4_pi4 (k4 : UInt32) : pi4 (pi4 p k4) k4 = p := by
  simp only [pi4, UInt32.xor_assoc, UInt32.xor_self, UInt32.xor_zero]

theorem decrypt_encrypt_round : decrypt_round (encrypt_round b wk) wk = b := by
  simp only [decrypt_round, encrypt_round, pi1_pi1, pi2_pi2, pi3_pi3, pi4_pi4]

theorem encrypt_decrypt_round : encrypt_round (decrypt_round b wk) wk = b := by
  simp only [decrypt_round, encrypt_round, pi1_pi1, pi2_pi2, pi3_pi3, pi4_pi4]

theorem cipher_decrypt_encrypt : cipher_decrypt (cipher_encrypt b wk rounds) wk rounds = b :=
  Function.LeftInverse.iterate (decrypt_encrypt_round · wk) rounds b

theorem cipher_encrypt_decrypt : cipher_encrypt (cipher_decrypt b wk rounds) wk rounds = b :=
  Function.LeftInverse.iterate (encrypt_decrypt_round · wk) rounds b

/-! ## Words and bytes -/

/-- One byte of a word, put back in its place. -/
theorem byte_in_place (v : BitVec 32) (k i : Nat) (hi : i < 32) :
    ((((v >>> k) &&& 0xff#32).setWidth 8).setWidth 32 <<< k).getLsbD i =
      (decide (k ≤ i ∧ i < k + 8) && v.getLsbD i) := by
  by_cases h1 : k ≤ i
  · by_cases h2 : i < k + 8
    · have h4 : i - k < 8 := by omega
      have h5 : (0xff#32).getLsbD (i - k) = true := by
        have hall : ∀ j < 8, (0xff#32).getLsbD j = true := by decide
        exact hall _ h4
      simp [h1, h2, h4, h5, hi, not_lt.mpr h1, show i - k < 32 by omega]
    · have h4 : ¬ i - k < 8 := by omega
      simp [h2, h4]
  · simp [Nat.lt_of_not_le h1]

/-- The four bytes of a word cover its 32 bits. -/
theorem load_be_store_be (v : UInt32) : load_be (store_be v) = v := by
  apply UInt32.toBitVec_inj.mp
  apply BitVec.eq_of_getLsbD_eq
  intro i hi
  have h0 := byte_in_place v.toBitVec 0 i hi
  simp only [BitVec.shiftLeft_zero, BitVec.ushiftRight_zero] at h0
  have hshape : (load_be (store_be v)).toBitVec =
      (((v.toBitVec >>> 24 &&& 0xff#32).setWidth 8).setWidth 32 <<< 24) |||
      (((v.toBitVec >>> 16 &&& 0xff#32).setWidth 8).setWidth 32 <<< 16) |||
      (((v.toBitVec >>> 8 &&& 0xff#32).setWidth 8).setWidth 32 <<< 8) |||
      ((v.toBitVec &&& 0xff#32).setWidth 8).setWidth 32 := rfl
  have hcover : (decide (24 ≤ i ∧ i < 24 + 8) || decide (16 ≤ i ∧ i < 16 + 8) ||
      decide (8 ≤ i ∧ i < 8 + 8) || decide (0 ≤ i ∧ i < 0 + 8)) = true := by
    simp only [Bool.or_eq_true, decide_eq_true_eq]
    omega
  rw [hshape]
  simp only [BitVec.getLsbD_or, h0, byte_in_place _ _ i hi, ← Bool.and_or_distrib_right]
  rw [hcover, Bool.true_and]

theorem store_be_load_be (a b c d : UInt8) : store_be (load_be [a, b, c, d]) = [a, b, c, d] := by
  simp only [load_be, store_be, at_byte, List.getD_cons_zero, List.getD_cons_succ, List.cons.injEq,
    and_true]
  refine ⟨?_, ?_, ?_, ?_⟩ <;> apply UInt8.toBitVec_inj.mp <;> ext i hi <;>
    interval_cases i <;> simp

theorem Block.store_length : b.store.length = 8 := rfl

theorem Block.load_store : Block.load b.store = b := by
  have hl : b.store.take 4 = store_be b.left := rfl
  have hr : (b.store.drop 4).take 4 = store_be b.right := rfl
  rw [Block.load, hl, hr, load_be_store_be, load_be_store_be]

theorem Block.store_load {p : List UInt8} (h : p.length = 8) : (Block.load p).store = p := by
  match p, h with
  | [a, b, c, d, e, f, g, i], _ =>
    change store_be (load_be [a, b, c, d]) ++ store_be (load_be [e, f, g, i]) = _
    rw [store_be_load_be, store_be_load_be]
    rfl

theorem Block.xor_xor (b c : Block) : (b.xor c).xor c = b := by
  simp only [Block.xor, UInt32.xor_assoc, UInt32.xor_self, UInt32.xor_zero]

/-! ## The payload mode -/

theorem store_be_xor (u v : UInt32) :
    store_be (u ^^^ v) = List.zipWith (· ^^^ ·) (store_be u) (store_be v) := by
  simp only [store_be, List.zipWith_cons_cons, List.zipWith_nil_right, List.cons.injEq, and_true]
  refine ⟨?_, ?_, ?_, ?_⟩ <;> apply UInt8.toBitVec_inj.mp <;> ext i hi <;>
    interval_cases i <;> simp

theorem Block.store_xor (b c : Block) :
    (b.xor c).store = List.zipWith (· ^^^ ·) b.store c.store := by
  have hlen : (store_be b.left).length = (store_be c.left).length := rfl
  rw [Block.store, Block.store, Block.store, List.zipWith_append hlen, ← store_be_xor,
    ← store_be_xor]
  rfl

/-- Bytes that are xored with a keystream twice come back. -/
theorem zipWith_xor_twice (bytes keystream : List UInt8) (h : bytes.length ≤ keystream.length) :
    List.zipWith (· ^^^ ·) (List.zipWith (· ^^^ ·) bytes keystream) keystream = bytes := by
  induction bytes generalizing keystream with
  | nil => simp
  | cons b rest ih =>
    cases keystream with
    | nil => simp at h
    | cons k keys =>
      rw [List.zipWith_cons_cons, List.zipWith_cons_cons, ih keys (by simpa using h),
        UInt8.xor_assoc, UInt8.xor_self, UInt8.xor_zero]

section modes

variable (key : Vector UInt32 8) (rounds : Nat) (rem : List UInt8) (state : Block)

/-- The tail is xored with the encrypted state, as a keystream. -/
theorem tail_ofb.spec (h : rem.length ≤ 8) :
    tail_ofb rem state key rounds =
      List.zipWith (· ^^^ ·) rem (cipher_encrypt state key rounds).store := by
  unfold tail_ofb
  split
  · rename_i hempty
    rw [List.isEmpty_iff.mp hempty, List.zipWith_nil_left]
  have hlen : (rem ++ List.replicate (8 - rem.length) 0).length = 8 := by
    rw [List.length_append, List.length_replicate]
    omega
  dsimp only
  rw [Block.store_xor, Block.store_load hlen, List.take_zipWith, List.take_left]
  have hshort : List.zipWith (· ^^^ ·) rem (cipher_encrypt state key rounds).store = _ :=
    List.zipWith_eq_zipWith_take_min
  rw [Block.store_length, Nat.min_eq_left h, List.take_length] at hshort
  exact hshort.symm

theorem tail_ofb_length (h : rem.length ≤ 8) :
    (tail_ofb rem state key rounds).length = rem.length := by
  rw [tail_ofb.spec key rounds rem state h, List.length_zipWith]
  exact Nat.min_eq_left h

theorem tail_ofb_twice (h : rem.length ≤ 8) :
    tail_ofb (tail_ofb rem state key rounds) state key rounds = rem := by
  rw [tail_ofb.spec key rounds _ state (by rw [tail_ofb_length key rounds rem state h]; exact h),
    tail_ofb.spec key rounds rem state h, zipWith_xor_twice _ _ h]

variable {chunks : Nat} (state : Block) {buf : List UInt8}
  {step back : Block → Block → Block × Block}

theorem over_chunks_length (h : 8 * chunks ≤ buf.length) (h' : buf.length ≤ 8 * chunks + 8) :
    (over_chunks step key rounds chunks state buf).length = buf.length := by
  induction chunks generalizing state buf with
  | zero => exact tail_ofb_length key rounds buf state (by omega)
  | succ chunks ih =>
    rw [over_chunks, List.length_append, Block.store_length, ih _ (by rw [List.length_drop]; omega)
      (by rw [List.length_drop]; omega), List.length_drop]
    omega

/-- Each block is taken back with the state that it was made with: the ciphertext block before it,
or the IV. -/
theorem over_chunks_back (hback : ∀ p state, back (step p state).1 state = (p, (step p state).2))
    (h : 8 * chunks ≤ buf.length) (h' : buf.length ≤ 8 * chunks + 8) :
    over_chunks back key rounds chunks state
      (over_chunks step key rounds chunks state buf) = buf := by
  induction chunks generalizing state buf with
  | zero => exact tail_ofb_twice key rounds buf state (by omega)
  | succ chunks ih =>
    have htake : (buf.take 8).length = 8 := by rw [List.length_take]; omega
    have hdrop : (buf.drop 8).length = buf.length - 8 := List.length_drop
    rw [over_chunks, over_chunks]
    rw [List.take_left' (Block.store_length _), List.drop_left' (Block.store_length _),
      Block.load_store, hback, Block.store_load htake, ih _ (by omega) (by omega),
      List.take_append_drop]

variable (iv : UInt32 × UInt32) (payload : List UInt8)

theorem encrypt_cbc_ofb_length : (encrypt_cbc_ofb payload iv key rounds).length = payload.length :=
  over_chunks_length key rounds _ (by omega) (by omega)

theorem decrypt_cbc_ofb_length : (decrypt_cbc_ofb payload iv key rounds).length = payload.length :=
  over_chunks_length key rounds _ (by omega) (by omega)

theorem decrypt_encrypt_cbc_ofb :
    decrypt_cbc_ofb (encrypt_cbc_ofb payload iv key rounds) iv key rounds = payload := by
  rw [decrypt_cbc_ofb, encrypt_cbc_ofb_length]
  refine over_chunks_back key rounds _ (fun p state => ?_) (by omega) (by omega)
  simp only [decrypt_chunk, encrypt_chunk, Block.cbc_post_decrypt, cipher_decrypt_encrypt,
    Block.xor_xor]

theorem encrypt_decrypt_cbc_ofb :
    encrypt_cbc_ofb (decrypt_cbc_ofb payload iv key rounds) iv key rounds = payload := by
  rw [encrypt_cbc_ofb, decrypt_cbc_ofb_length]
  refine over_chunks_back key rounds _ (fun c state => ?_) (by omega) (by omega)
  simp only [decrypt_chunk, encrypt_chunk, Block.cbc_post_decrypt, Block.xor_xor,
    cipher_encrypt_decrypt]

end modes

/-- Every key material with a round count of at least 1 gives a key. Under that key, encryption and
decryption of a payload of any length keep the length and undo each other, and so do the two block
functions. -/
theorem multi2_decryption_undoes_encryption (m : Multi2KeyMaterial) (h : 1 ≤ m.rounds) :
    ∃ key, m.prepare = .ok key ∧
      (∀ payload, multi2_decrypt_payload (multi2_encrypt_payload payload key) key = payload ∧
        multi2_encrypt_payload (multi2_decrypt_payload payload key) key = payload ∧
        (multi2_encrypt_payload payload key).length = payload.length ∧
        (multi2_decrypt_payload payload key).length = payload.length) ∧
      ∀ b, cipher_decrypt (cipher_encrypt b key.work_key key.rounds) key.work_key key.rounds = b ∧
        cipher_encrypt (cipher_decrypt b key.work_key key.rounds) key.work_key key.rounds = b := by
  unfold Multi2KeyMaterial.prepare
  rw [if_neg (by omega)]
  refine ⟨_, rfl, ?_, ?_⟩
  · intro payload
    exact ⟨decrypt_encrypt_cbc_ofb .., encrypt_decrypt_cbc_ofb .., encrypt_cbc_ofb_length ..,
      decrypt_cbc_ofb_length ..⟩
  · intro b
    exact ⟨cipher_decrypt_encrypt .., cipher_encrypt_decrypt ..⟩

/-- Key material with zero bytes and the usual round count. -/
def zeroKey : Multi2KeyMaterial :=
  .new ⟨List.replicate 32 0, rfl⟩ ⟨List.replicate 8 0, rfl⟩ ⟨List.replicate 8 0, rfl⟩

/-- A payload of a block and three bytes comes back under it. -/
theorem eleven_bytes_come_back :
    ∃ key, zeroKey.prepare = .ok key ∧
      multi2_decrypt_payload (multi2_encrypt_payload [1, 2, 3, 4, 5, 6, 7, 8, 9, 10, 11] key) key =
        [1, 2, 3, 4, 5, 6, 7, 8, 9, 10, 11] := by
  obtain ⟨key, hkey, hpayload, _⟩ := multi2_decryption_undoes_encryption zeroKey (by decide)
  exact ⟨key, hkey, (hpayload _).1⟩

end tuner_hal2_descrambler
