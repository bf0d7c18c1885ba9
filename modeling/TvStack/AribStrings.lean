-- The decoder of ARIB strings: the graphic sets that are invoked, the escapes that
-- change them, the control sequences that are skipped, and what is replaced. The
-- generated tables of the two-byte sets are a parameter. Up to the first error, a
-- strict and a lossy decoding are the same.
import TvStack.Checked
import TvStack.CodecSignaling

open Checked Words

namespace arib_si_engine_rs.arib_string

open arib_si_engine_rs.ca_descriptor ( hex_prefix)

inductive AribStringDecodeError
  | TruncatedEscape
  | TruncatedGraphic
  | UnsupportedEscape
  | UnsupportedControl
  | MalformedCsi
  | MiddleSizeGraphic
  deriving DecidableEq

/-- What a step of the decoder gives. -/
abbrev Decoded := Except AribStringDecodeError

/-- The name that `{:?}` prints. -/
def AribStringDecodeError.debug : AribStringDecodeError → String
  | .TruncatedEscape => "TruncatedEscape"
  | .TruncatedGraphic => "TruncatedGraphic"
  | .UnsupportedEscape => "UnsupportedEscape"
  | .UnsupportedControl => "UnsupportedControl"
  | .MalformedCsi => "MalformedCsi"
  | .MiddleSizeGraphic => "MiddleSizeGraphic"

inductive ErrorPolicy
  | Strict
  | Replace
  deriving DecidableEq

/-! ## What is recorded -/

structure AribStringDecodeDiagnosticEntry where
  offset : Nat
  (input_prefix_hex code_set_or_control reason : String)
  replacement_emitted : Bool

structure AribStringDecodeDiagnostic where
  replacement_count : Nat := 0
  unsupported_escape_count : Nat := 0
  truncated_escape_count : Nat := 0
  truncated_graphic_count : Nat := 0
  entries : List AribStringDecodeDiagnosticEntry := []

def ARIB_STRING_DECODER_SCOPE : String := "mirakc_scope_non_caption_si_epg_only"

namespace AribStringDecodeDiagnostic

variable (diagnostic : AribStringDecodeDiagnostic)

def record_entry (bytes : List UInt8) (offset : Nat) (code_set_or_control reason : String)
    (replacement_emitted : Bool) : AribStringDecodeDiagnostic :=
  { diagnostic with
    entries := diagnostic.entries ++
      [⟨offset, hex_prefix (bytes.drop offset) 8, code_set_or_control, reason,
        replacement_emitted⟩] }

def summary : String :=
  let entries := ",".intercalate (diagnostic.entries.map fun entry =>
    "\x7boffset:" ++ toString entry.offset ++ " input_prefix_hex:" ++ entry.input_prefix_hex ++
      " code:" ++ entry.code_set_or_control ++ " reason:" ++ entry.reason ++
      " replacement:" ++ toString entry.replacement_emitted ++ "\x7d")
  "scope=" ++ ARIB_STRING_DECODER_SCOPE ++
    " replacement_count=" ++ toString diagnostic.replacement_count ++
    " unsupported_escape_count=" ++ toString diagnostic.unsupported_escape_count ++
    " truncated_escape_count=" ++ toString diagnostic.truncated_escape_count ++
    " truncated_graphic_count=" ++ toString diagnostic.truncated_graphic_count ++
    " entries=[" ++ entries ++ "]"

end AribStringDecodeDiagnostic

/-! ## Graphic sets -/

inductive GraphicSet
  | Alnum
  | Hiragana
  | Katakana
  | Kanji
  | AdditionalSymbols
  deriving DecidableEq

structure InvocationState where
  g0 : GraphicSet := .Kanji
  g1 : GraphicSet := .Alnum
  g2 : GraphicSet := .Hiragana
  g3 : GraphicSet := .Katakana
  gl : GraphicSet := .Kanji
  gr : GraphicSet := .Hiragana
  middle_size : Bool := false

/-- The generated tables. -/
structure GraphicTables where
  (map_jis_x0208 map_arib_additional_symbol : UInt8 → UInt8 → String)

def REPLACEMENT : String := String.singleton (Char.ofNat 0xfffd)

def is_two_byte_graphic : GraphicSet → Bool
  | .Kanji | .AdditionalSymbols => true
  | _ => false

def two_byte_graphic_set (final_byte : UInt8) : Decoded GraphicSet :=
  if final_byte = 0x42 ∨ final_byte = 0x40 then .ok .Kanji
  else if final_byte = 0x3b then .ok .AdditionalSymbols
  else .error .UnsupportedEscape

def HIRAGANA : List Char :=
  ("ぁあぃいぅうぇえぉおかがきぎくぐけげこごさざしじすずせぜそぞただちぢっつづてでとどなにぬねのはばぱひびぴふぶぷ" ++
    "へべぺほぼぽまみむめもゃやゅゆょよらりるれろゎわゐゑをんゔゕゖ。「」、・ーゝゞ").toList

def KATAKANA : List Char :=
  ("ァアィイゥウェエォオカガキギクグケゲコゴサザシジスズセゼソゾタダチヂッツヅテデトドナニヌネノハバパヒビピフブプ" ++
    "ヘベペホボポマミムメモャヤュユョヨラリルレロヮワヰヱヲンヴヵヶ。「」、・ーヽヾ").toList

/-- The character of a one-byte set, counted from 0x21. -/
def map_one_byte (table : List Char) (b : UInt8) : String :=
  match table[b.toNat - 0x21]? with
  | some c => String.singleton c
  | none => REPLACEMENT

def map_hiragana : UInt8 → String := map_one_byte HIRAGANA

def map_katakana : UInt8 → String := map_one_byte KATAKANA

variable (tables : GraphicTables) (bytes : List UInt8) (state : InvocationState)

def map_two_byte_graphic (set : GraphicSet) (first second : UInt8) : String :=
  match set with
  | .Kanji => tables.map_jis_x0208 first second
  | .AdditionalSymbols => tables.map_arib_additional_symbol first second
  | _ => REPLACEMENT

/-- A character behind a single shift, and how many bytes it takes. -/
def decode_single_shift (set : GraphicSet) (bytes : List UInt8) (index : Nat) :
    Decoded (String × Nat) :=
  match bytes[index + 1]? with
  | none => .error .TruncatedGraphic
  | some first =>
    match set with
    | .Alnum => .ok (String.singleton (Char.ofNat first.toNat), 1)
    | .Hiragana => .ok (map_hiragana first, 1)
    | .Katakana => .ok (map_katakana first, 1)
    | .Kanji | .AdditionalSymbols =>
      match bytes[index + 2]? with
      | none => .error .TruncatedGraphic
      | some second => .ok (map_two_byte_graphic tables set first second, 2)

/-! ## Control sequences -/

/-- The rest of a control sequence, from the byte at `index` on. -/
def consume_csi_from (index : Nat) : List UInt8 → Decoded Nat
  | [] => .error .MalformedCsi
  | b :: rest =>
    if 0x40 ≤ b ∧ b ≤ 0x7e then .ok (index + 1)
    else if ¬ (0x20 ≤ b ∧ b ≤ 0x3f) then .error .MalformedCsi
    else consume_csi_from (index + 1) rest

def consume_csi : Decoded Nat :=
  if bytes.head? ≠ some 0x9b then .error .MalformedCsi else consume_csi_from 1 (bytes.drop 1)

inductive XcsMarker
  | Start
  | End
  deriving DecidableEq

def csi_xcs_marker : Decoded (Nat × Option XcsMarker) := do
  let consumed ← consume_csi bytes
  let marker :=
    if consumed = 4 ∧ bytes[2]? = some 0x20 ∧ bytes[3]? = some 0x66 then
      if bytes[1]? = some 0x30 then some .Start
      else if bytes[1]? = some 0x31 then some .End
      else none
    else none
  pure (consumed, marker)

/-- A turn of the loop that looks for the end of a block. -/
def xcs_turn (cursor : Nat) : Run (Nat ⊕ Decoded (Option Nat)) := do
  if bytes.length ≤ cursor then return .inr (.error .MalformedCsi)
  if (← index bytes cursor) ≠ 0x9b then return .inl (cursor + 1)
  match csi_xcs_marker (← range bytes cursor bytes.length) with
  | .error error => return .inr (.error error)
  | .ok (consumed, some .End) => return .inr (.ok (some (cursor + consumed)))
  | .ok (_, some .Start) => return .inr (.error .MalformedCsi)
  | .ok (consumed, none) => return .inl (cursor + consumed)

def consume_xcs_block : Run (Decoded (Option Nat)) :=
  match csi_xcs_marker bytes with
  | .error error => pure (.error error)
  | .ok (start_len, marker) =>
    if marker ≠ some .Start then pure (.ok none)
    else loop (xcs_turn bytes) (bytes.length + 1) start_len

/-! ## Escapes -/

/-- `(`, `)`, `*` and `+`. -/
def isDesignation (b : UInt8) : Bool := b = 0x28 || b = 0x29 || b = 0x2a || b = 0x2b

def unsupported_escape_sequence_length : Nat :=
  match bytes[1]? with
  | none => 1
  | some b =>
    if b = 0x24 ∧ bytes[2]?.any isDesignation then min bytes.length 4
    else if b = 0x24 ∨ isDesignation b then min bytes.length 3
    else min bytes.length 2

/-- The sets that `(`, `)`, `*` and `+` designate. A set of G0 is invoked at once. -/
def designate (intermediate : UInt8) (set : GraphicSet) : InvocationState :=
  if intermediate = 0x28 then { state with g0 := set, gl := set }
  else if intermediate = 0x29 then { state with g1 := set }
  else if intermediate = 0x2a then { state with g2 := set }
  else { state with g3 := set }

/-- The one-byte set with this final byte. -/
def one_byte_graphic_set (final_byte : UInt8) : Option GraphicSet :=
  if final_byte = 0x42 ∨ final_byte = 0x4a then some .Alnum
  else if final_byte = 0x49 then some .Katakana
  else if final_byte = 0x30 then some .Hiragana
  else none

def isTwoByteFinal (b : UInt8) : Bool := b = 0x42 || b = 0x40 || b = 0x3b

/-- The bytes of an escape with their new state. -/
abbrev Escape := Decoded (Nat × InvocationState)

/-- A designation, of three bytes or of four. -/
def apply_designation (bytes : List UInt8) (first : UInt8) : Run Escape := do
  if bytes.length < 3 then return .error .TruncatedEscape
  let second ← index bytes 2
  if first = 0x24 ∧ isDesignation second ∧ bytes.length < 4 then return .error .TruncatedEscape
  if isDesignation first then
    match one_byte_graphic_set second with
    | some set => return .ok (3, designate state first set)
    | none => return .error .UnsupportedEscape
  else if first = 0x24 ∧ isTwoByteFinal second then
    return (two_byte_graphic_set second).map fun set => (3, designate state 0x28 set)
  else if first = 0x24 ∧ isDesignation second then
    let final_byte ← index bytes 3
    if isTwoByteFinal final_byte then
      return (two_byte_graphic_set final_byte).map fun set => (4, designate state second set)
    else return .error .UnsupportedEscape
  else return .error .UnsupportedEscape

def apply_escape (bytes : List UInt8) : Run Escape := do
  if bytes.length < 2 then return .error .TruncatedEscape
  let first ← index bytes 1
  if first = 0x6e then return .ok (2, { state with gl := state.g2 })
  else if first = 0x6f then return .ok (2, { state with gl := state.g3 })
  else if first = 0x7e then return .ok (2, { state with gr := state.g1 })
  else if first = 0x7d then return .ok (2, { state with gr := state.g2 })
  else if first = 0x7c then return .ok (2, { state with gr := state.g3 })
  else apply_designation state bytes first

/-! ## The loop -/

structure DecodeState where
  index : Nat := 0
  out : String := ""
  diagnostic : AribStringDecodeDiagnostic := {}
  state : InvocationState

/-- How a turn ends: with the next state, or with the end of the loop. -/
abbrev DecodeTurn := DecodeState ⊕ Decoded DecodeState

variable (replaced : Decoded DecodeState)

namespace DecodeState

def push (s : DecodeState) (text : String) : DecodeState := { s with out := s.out ++ text }

def skip (s : DecodeState) (count : Nat) : DecodeState := { s with index := s.index + count }

variable (diagnostic : AribStringDecodeDiagnostic)

/-- The one-byte counters next to the count of all replacements. -/
def count_replacement : AribStringDecodeDiagnostic :=
  { diagnostic with
    replacement_count := saturating_add USIZE_MAX diagnostic.replacement_count 1 }

def count_truncated_graphic : AribStringDecodeDiagnostic :=
  count_replacement { diagnostic with
    truncated_graphic_count := saturating_add USIZE_MAX diagnostic.truncated_graphic_count 1 }

def count_truncated_escape : AribStringDecodeDiagnostic :=
  count_replacement { diagnostic with
    truncated_escape_count := saturating_add USIZE_MAX diagnostic.truncated_escape_count 1 }

def count_unsupported_escape : AribStringDecodeDiagnostic :=
  count_replacement { diagnostic with
    unsupported_escape_count := saturating_add USIZE_MAX diagnostic.unsupported_escape_count 1 }

/-- An error ends a strict decoding. Otherwise it is counted and recorded, and a character stands in
its place. -/
def replace (s : DecodeState) (policy : ErrorPolicy) (bytes : List UInt8)
    (error : AribStringDecodeError)
    (count : AribStringDecodeDiagnostic → AribStringDecodeDiagnostic)
    (code_set_or_control reason : String) : Decoded DecodeState :=
  if policy = .Strict then .error error
  else .ok ({ s with
    diagnostic :=
      (count s.diagnostic).record_entry bytes s.index code_set_or_control reason true }.push
        REPLACEMENT)

end DecodeState

open DecodeState

/-- The loop goes on behind a replacement, with these bytes skipped. -/
def resume (count : Nat) : DecodeTurn :=
  match replaced with
  | .error error => .inr (.error error)
  | .ok s => .inl (s.skip count)

/-- The loop ends with a replacement. -/
def give_up : DecodeTurn := .inr replaced

section Turns

variable (tables : GraphicTables) (policy : ErrorPolicy) (bytes : List UInt8) (s : DecodeState)

/-- LS2 and LS3 for one character. -/
def single_shift_turn (set : GraphicSet) : DecodeTurn :=
  if s.state.middle_size ∧ set ≠ .Alnum then
    resume (s.replace policy bytes .MiddleSizeGraphic count_replacement "MSZ/single_shift"
      "middle_size_non_alphanumeric") (if is_two_byte_graphic set then 3 else 2)
  else
    match decode_single_shift tables set bytes s.index with
    | .ok (value, consumed) => .inl ((s.push value).skip (consumed + 1))
    | .error .TruncatedGraphic =>
      give_up (s.replace policy bytes .TruncatedGraphic count_truncated_graphic "graphic"
        "truncated_graphic")
    | .error error =>
      give_up (s.replace policy bytes error count_replacement "single_shift"
        "unsupported_or_truncated_single_shift")

def escape_turn : Run DecodeTurn := do
  let rest ← range bytes s.index bytes.length
  match ← apply_escape s.state rest with
  | .ok (consumed, state) => return .inl ({ s with state }.skip (consumed - 1 + 1))
  | .error .TruncatedEscape =>
    return give_up (s.replace policy bytes .TruncatedEscape count_truncated_escape "ESC"
      "truncated_escape")
  | .error .TruncatedGraphic =>
    return give_up (s.replace policy bytes .TruncatedGraphic count_truncated_graphic "ESC/graphic"
      "truncated_graphic")
  | .error error =>
    return resume (s.replace policy bytes error count_unsupported_escape "ESC"
      "unsupported_escape") (unsupported_escape_sequence_length rest - 1 + 1)

def malformed_csi (error : AribStringDecodeError) : DecodeTurn :=
  give_up (s.replace policy bytes error count_replacement "CSI/XCS" "malformed_or_truncated_csi")

def csi_turn : Run DecodeTurn := do
  let rest ← range bytes s.index bytes.length
  match ← consume_xcs_block rest with
  | .ok (some consumed) => return .inl (s.skip (consumed - 1 + 1))
  | .ok none =>
    match consume_csi rest with
    | .ok consumed => return .inl (s.skip (consumed - 1 + 1))
    | .error error => return malformed_csi policy bytes s error
  | .error error => return malformed_csi policy bytes s error

/-- A character of GL or of GR. The two areas differ in their names, in how a byte is brought down
to seven bits, and in what a second byte may be. -/
def graphic_turn (area : String) (set : GraphicSet) (first : UInt8) (isSecond : UInt8 → Bool) :
    DecodeTurn :=
  if s.state.middle_size ∧ set ≠ .Alnum then
    resume (s.replace policy bytes .MiddleSizeGraphic count_replacement ("MSZ/" ++ area)
      "middle_size_non_alphanumeric")
      (if is_two_byte_graphic set ∧ bytes[s.index + 1]?.isSome then 2 else 1)
  else
    match set with
    | .Alnum => .inl ((s.push (String.singleton (Char.ofNat first.toNat))).skip 1)
    | .Hiragana => .inl ((s.push (map_hiragana first)).skip 1)
    | .Katakana => .inl ((s.push (map_katakana first)).skip 1)
    | .Kanji | .AdditionalSymbols =>
      match bytes[s.index + 1]? with
      | none =>
        give_up (s.replace policy bytes .TruncatedGraphic count_truncated_graphic
          (area ++ "/Kanji") "truncated_graphic")
      | some next =>
        if !isSecond next then
          resume (s.replace policy bytes .UnsupportedControl count_replacement (area ++ "/Kanji")
            "不正な2バイト目") 1
        else .inl ((s.push (map_two_byte_graphic tables set first (next &&& 0x7f))).skip 2)

def isGl (b : UInt8) : Bool := decide (0x21 ≤ b ∧ b ≤ 0x7e)

def isGr (b : UInt8) : Bool := decide (0xa1 ≤ b ∧ b ≤ 0xfe)

def decode_turn : Run DecodeTurn := do
  if bytes.length ≤ s.index then return .inr (.ok s)
  let b ← index bytes s.index
  if b = 0x00 then return .inl (s.skip 1)
  else if b = 0x0d then return .inl ((s.push "\n").skip 1)
  else if b = 0x0e then return .inl ({ s with state := { s.state with gl := s.state.g1 } }.skip 1)
  else if b = 0x0f then return .inl ({ s with state := { s.state with gl := s.state.g0 } }.skip 1)
  else if b = 0x19 then return single_shift_turn tables policy bytes s s.state.g2
  else if b = 0x1d then return single_shift_turn tables policy bytes s s.state.g3
  else if b = 0x1b then escape_turn policy bytes s
  else if b = 0x20 then return .inl ((s.push " ").skip 1)
  else if b = 0x89 then
    return .inl ({ s with state := { s.state with middle_size := true } }.skip 1)
  else if b = 0x8a then
    return .inl ({ s with state := { s.state with middle_size := false } }.skip 1)
  else if b = 0x9b then csi_turn policy bytes s
  else if isGl b then return graphic_turn tables policy bytes s "GL" s.state.gl b isGl
  else if isGr b then
    return graphic_turn tables policy bytes s "GR" s.state.gr (b &&& 0x7f) fun next =>
      isGr next || isGl next
  else
    return resume (s.replace policy bytes .UnsupportedControl count_replacement
      "control_or_private" "unsupported_byte") 1

end Turns

/-- `trim_matches` of the NUL character. -/
def trim_nul (text : String) : String :=
  String.ofList (((text.toList.dropWhile (·.toNat = 0)).reverse.dropWhile (·.toNat = 0)).reverse)

/-- The text, what was recorded, and the state that the sets are left in. -/
def decode_arib_string_with_policy (policy : ErrorPolicy) :
    Run (Decoded
      (String × AribStringDecodeDiagnostic × InvocationState)) := do
  match ← loop (decode_turn tables policy bytes) (bytes.length + 1) { state } with
  | .error error => return .error error
  | .ok s => return .ok (trim_nul s.out, s.diagnostic, s.state)

def decode_arib_string_replacing : Run (String × AribStringDecodeDiagnostic) := do
  match ← decode_arib_string_with_policy tables bytes state .Replace with
  | .ok (text, diagnostic, _) => return (text, diagnostic)
  | .error error =>
    return (REPLACEMENT, { replacement_count := 1 : AribStringDecodeDiagnostic }.record_entry
      bytes 0 "decoder" ("replacement_policy_failure:" ++ error.debug) true)

def decode_arib_string_lossy : Run (String × AribStringDecodeDiagnostic) :=
  decode_arib_string_replacing tables bytes {}

variable (decoder : InvocationState)

/-- A strict decoder. Only a text that could be decoded changes its state. -/
def decode (bytes : List UInt8) : Run (Decoded String × InvocationState) := do
  match ← decode_arib_string_with_policy tables bytes decoder .Strict with
  | .ok (text, _, state) => return (.ok text, state)
  | .error error => return (.error error, decoder)

def lossy_diagnostic (bytes : List UInt8) : Run AribStringDecodeDiagnostic := do
  return (← decode_arib_string_replacing tables bytes decoder).2

/-! ## The decoder returns -/

section Returns

variable {bytes : List UInt8} {s s' : DecodeState} {policy : ErrorPolicy}

/-- A turn that goes on has taken a byte. -/
def Advances (s : DecodeState) : DecodeTurn → Prop
  | .inl s' => s.index < s'.index
  | .inr _ => True

theorem advances_skip {count : Nat} (h : s'.index = s.index) :
    Advances s (.inl (s'.skip (count + 1))) := by
  change s.index < s'.index + (count + 1)
  rw [h]
  exact Nat.lt_add_of_pos_right (Nat.succ_pos count)

theorem advances_resume {error : AribStringDecodeError}
    {count : AribStringDecodeDiagnostic → AribStringDecodeDiagnostic} {code reason : String}
    {n : Nat} (hn : 0 < n) :
    Advances s (resume (s.replace policy bytes error count code reason) n) := by
  obtain ⟨m, rfl⟩ := Nat.exists_eq_succ_of_ne_zero (Nat.ne_of_gt hn)
  unfold DecodeState.replace
  split
  · trivial
  · exact advances_skip rfl

variable (tables : GraphicTables)

theorem single_shift_advances (set : GraphicSet) :
    Advances s (single_shift_turn tables policy bytes s set) := by
  unfold single_shift_turn
  split
  · exact advances_resume (by split <;> decide)
  split
  · exact advances_skip rfl
  · trivial
  · trivial

theorem graphic_advances (area : String) (set : GraphicSet) (first : UInt8)
    (isSecond : UInt8 → Bool) :
    Advances s (graphic_turn tables policy bytes s area set first isSecond) := by
  unfold graphic_turn
  split
  · exact advances_resume (by split <;> decide)
  split
  · exact advances_skip rfl
  · exact advances_skip rfl
  · exact advances_skip rfl
  all_goals
    split
    · trivial
    split
    · exact advances_resume (by decide)
    · exact advances_skip rfl

theorem apply_designation_returns (state : InvocationState) (first : UInt8) :
    Ends (apply_designation state bytes first) := by
  unfold apply_designation
  split
  · exact .pure
  refine index_then (by omega) fun second => ?_
  split
  · exact .pure
  rename_i hfour
  split
  · split <;> exact .pure
  split
  · exact .pure
  split
  · -- the fourth byte is there, or the escape was cut
    rename_i hdesignation
    refine (index_returns ?_).bind fun final_byte _ => ?_
    · exact Nat.lt_of_not_le fun hle => hfour ⟨hdesignation.1, hdesignation.2, by omega⟩
    · split <;> exact .pure
  · exact .pure

theorem apply_escape_returns (state : InvocationState) : Ends (apply_escape state bytes) := by
  unfold apply_escape
  split
  · exact .pure
  refine index_then (by omega) fun first => ?_
  iterate 5
    split
    · exact .pure
  exact apply_designation_returns state first

theorem escape_returns (h : s.index < bytes.length) :
    Returns (escape_turn policy bytes s) (Advances s) := by
  refine range_then (by omega) fun rest => ?_
  refine (apply_escape_returns s.state).bind fun escape _ => ?_
  split
  · exact .ok (advances_skip rfl)
  · exact .ok trivial
  · exact .ok trivial
  · exact .ok (advances_resume (Nat.succ_pos _))

theorem consume_csi_from_pos {n consumed : Nat} {bytes : List UInt8}
    (h : consume_csi_from n bytes = .ok consumed) : 0 < consumed := by
  induction bytes generalizing n with
  | nil => contradiction
  | cons b rest ih =>
    unfold consume_csi_from at h
    split at h
    · cases h
      exact Nat.succ_pos n
    split at h
    · contradiction
    · exact ih h

theorem csi_xcs_marker_pos {consumed : Nat} {marker : Option XcsMarker}
    (h : csi_xcs_marker bytes = .ok (consumed, marker)) : 0 < consumed := by
  unfold csi_xcs_marker consume_csi at h
  split at h
  · contradiction
  cases hcsi : consume_csi_from 1 (bytes.drop 1) with
  | error error =>
    rw [hcsi] at h
    contradiction
  | ok n =>
    rw [hcsi] at h
    cases h
    exact consume_csi_from_pos hcsi

theorem consume_xcs_block_returns : Ends (consume_xcs_block bytes) := by
  unfold consume_xcs_block
  split
  · exact .pure
  split
  · exact .pure
  refine loop_returns (fun _ => True) (fun cursor => bytes.length - cursor) ?_ trivial
    (Nat.lt_succ_of_le (Nat.sub_le _ _))
  intro cursor _
  unfold xcs_turn
  split
  · exact .ok trivial
  rename_i hcursor
  have hlt : cursor < bytes.length := Nat.lt_of_not_le hcursor
  refine index_then hlt fun b => ?_
  split
  · exact .ok ⟨trivial, by beta_reduce; omega⟩
  refine range_then (by omega) fun rest => ?_
  split
  · exact .ok trivial
  · exact .ok trivial
  · exact .ok trivial
  rename_i consumed hmarker
  have hpos := csi_xcs_marker_pos hmarker
  exact .ok ⟨trivial, by beta_reduce; omega⟩

theorem csi_returns (h : s.index < bytes.length) :
    Returns (csi_turn policy bytes s) (Advances s) := by
  refine range_then (by omega) fun rest => ?_
  refine consume_xcs_block_returns.bind fun block _ => ?_
  split
  · exact .ok (advances_skip rfl)
  · split
    · exact .ok (advances_skip rfl)
    · exact .ok trivial
  · exact .ok trivial

theorem decode_turn_returns (h : s.index < bytes.length) :
    Returns (decode_turn tables policy bytes s) (Advances s) := by
  unfold decode_turn
  rw [if_neg (Nat.not_le_of_lt h)]
  refine index_then h fun b => ?_
  -- the controls, in the order of the source
  iterate 4 refine .ite (fun _ => .ok (advances_skip rfl)) fun _ => ?_
  iterate 2 refine .ite (fun _ => .ok (single_shift_advances tables _)) fun _ => ?_
  refine .ite (fun _ => escape_returns h) fun _ => ?_
  iterate 3 refine .ite (fun _ => .ok (advances_skip rfl)) fun _ => ?_
  refine .ite (fun _ => csi_returns h) fun _ => ?_
  -- the graphics, and what is none of these
  iterate 2 refine .ite (fun _ => .ok (graphic_advances tables _ _ _ _)) fun _ => ?_
  exact .ok (advances_resume (by decide))

variable (bytes) (tables : GraphicTables)

theorem decode_arib_string_with_policy.spec (state : InvocationState) (policy : ErrorPolicy) :
    Ends (decode_arib_string_with_policy tables bytes state policy) := by
  have hloop : Ends (loop (decode_turn tables policy bytes) (bytes.length + 1) { state }) := by
    refine loop_returns (fun _ => True) (fun s => bytes.length - s.index) ?_ trivial
      (Nat.lt_succ_of_le (Nat.sub_le _ _))
    intro s _
    by_cases hend : bytes.length ≤ s.index
    · refine ⟨.inr (.ok s), ?_, trivial⟩
      unfold decode_turn
      rw [if_pos hend]
      rfl
    · refine (decode_turn_returns tables (Nat.lt_of_not_le hend)).mono fun next hnext => ?_
      cases next with
      | inl s' =>
        change s.index < s'.index at hnext
        exact ⟨trivial, by beta_reduce; omega⟩
      | inr result => trivial
  refine hloop.bind fun result _ => ?_
  split <;> exact .pure

theorem decode_arib_string_replacing.spec (state : InvocationState) :
    Ends (decode_arib_string_replacing tables bytes state) := by
  refine (decode_arib_string_with_policy.spec bytes tables state _).bind fun result _ => ?_
  split <;> exact .pure

theorem decode_arib_string_lossy.spec : Ends (decode_arib_string_lossy tables bytes) :=
  decode_arib_string_replacing.spec bytes tables {}

variable (decoder : InvocationState)

theorem decode.spec : Ends (decode tables decoder bytes) := by
  refine (decode_arib_string_with_policy.spec bytes tables decoder _).bind fun result _ => ?_
  split <;> exact .pure

theorem lossy_diagnostic.spec : Ends (lossy_diagnostic tables decoder bytes) :=
  (decode_arib_string_replacing.spec bytes tables decoder).then_pure

end Returns

end arib_si_engine_rs.arib_string

namespace arib_si_engine_rs.arib_string

open DecodeState

/-- A turn of a strict loop and of a lossy one from the same state. They do the same and record
nothing, or the strict one stops and the lossy one has counted a replacement. -/
inductive TurnsAgree (s : DecodeState) : DecodeTurn → DecodeTurn → Prop
  | next {s' : DecodeState} (h : s'.diagnostic = s.diagnostic) : TurnsAgree s (.inl s') (.inl s')
  | done : TurnsAgree s (.inr (.ok s)) (.inr (.ok s))
  | stops {error : AribStringDecodeError} {s' : DecodeState}
      (h : 0 < s'.diagnostic.replacement_count) : TurnsAgree s (.inr (.error error)) (.inl s')
  | gives_up {error : AribStringDecodeError} {s' : DecodeState}
      (h : 0 < s'.diagnostic.replacement_count) :
      TurnsAgree s (.inr (.error error)) (.inr (.ok s'))

/-- Both turns return, and agree. -/
def Agree (s : DecodeState) (strict lossy : Run DecodeTurn) : Prop :=
  ∃ a b, strict = .ok a ∧ lossy = .ok b ∧ TurnsAgree s a b

section Turns

variable {s : DecodeState} {bytes : List UInt8} {tables : GraphicTables}

theorem Agree.pure {a b : DecodeTurn} (h : TurnsAgree s a b) :
    Agree s (Pure.pure a) (Pure.pure b) :=
  ⟨a, b, rfl, rfl, h⟩

theorem Agree.same {s' : DecodeState} (h : s'.diagnostic = s.diagnostic) :
    Agree s (Pure.pure (.inl s')) (Pure.pure (.inl s')) := .pure (.next h)

theorem Agree.bind {α : Type} {x : Run α} {P : α → Prop}
    {f g : α → Run DecodeTurn} (hx : Returns x P) (h : ∀ a, Agree s (f a) (g a)) :
    Agree s (x >>= f) (x >>= g) := by
  obtain ⟨a, rfl, -⟩ := hx
  exact h a

theorem Agree.ite {c : Prop} [Decidable c] {x y x' y' : Run DecodeTurn} (h : Agree s x x')
    (h' : Agree s y y') : Agree s (if c then x else y) (if c then x' else y') := by
  split
  · exact h
  · exact h'

/-- Every counter of errors counts a replacement. -/
def Counts (count : AribStringDecodeDiagnostic → AribStringDecodeDiagnostic) : Prop :=
  ∀ diagnostic, 0 < (count diagnostic).replacement_count

theorem count_replacement_counts : Counts count_replacement := by
  intro diagnostic
  exact Nat.lt_min.mpr ⟨Nat.succ_pos _, by decide⟩

variable {error : AribStringDecodeError}
  {count : AribStringDecodeDiagnostic → AribStringDecodeDiagnostic} {code reason : String}

theorem resume_agrees (h : Counts count) (n : Nat) :
    TurnsAgree s (resume (s.replace .Strict bytes error count code reason) n)
      (resume (s.replace .Replace bytes error count code reason) n) := .stops (h _)

theorem give_up_agrees (h : Counts count) :
    TurnsAgree s (give_up (s.replace .Strict bytes error count code reason))
      (give_up (s.replace .Replace bytes error count code reason)) := .gives_up (h _)

theorem single_shift_agrees (set : GraphicSet) :
    TurnsAgree s (single_shift_turn tables .Strict bytes s set)
      (single_shift_turn tables .Replace bytes s set) := by
  unfold single_shift_turn
  split
  · exact resume_agrees count_replacement_counts _
  split
  · exact .next rfl
  · exact give_up_agrees fun _ => count_replacement_counts _
  · exact give_up_agrees count_replacement_counts

theorem graphic_agrees (area : String) (set : GraphicSet) (first : UInt8)
    (isSecond : UInt8 → Bool) :
    TurnsAgree s (graphic_turn tables .Strict bytes s area set first isSecond)
      (graphic_turn tables .Replace bytes s area set first isSecond) := by
  unfold graphic_turn
  split
  · exact resume_agrees count_replacement_counts _
  split
  · exact .next rfl
  · exact .next rfl
  · exact .next rfl
  all_goals
    split
    · exact give_up_agrees fun _ => count_replacement_counts _
    split
    · exact resume_agrees count_replacement_counts _
    · exact .next rfl

theorem escape_agrees (h : s.index < bytes.length) :
    Agree s (escape_turn .Strict bytes s) (escape_turn .Replace bytes s) := by
  refine .bind (range_returns (Nat.le_of_lt h) (Nat.le_refl _)) fun rest => ?_
  refine .bind (apply_escape_returns s.state) fun escape => ?_
  split
  · exact .same rfl
  · exact .pure (give_up_agrees fun _ => count_replacement_counts _)
  · exact .pure (give_up_agrees fun _ => count_replacement_counts _)
  · exact .pure (resume_agrees (fun _ => count_replacement_counts _) _)

theorem csi_agrees (h : s.index < bytes.length) :
    Agree s (csi_turn .Strict bytes s) (csi_turn .Replace bytes s) := by
  refine .bind (range_returns (Nat.le_of_lt h) (Nat.le_refl _)) fun rest => ?_
  refine .bind consume_xcs_block_returns fun block => ?_
  split
  · exact .same rfl
  · split
    · exact .same rfl
    · exact .pure (give_up_agrees count_replacement_counts)
  · exact .pure (give_up_agrees count_replacement_counts)

theorem decode_turn_agrees (tables : GraphicTables) (bytes : List UInt8) (s : DecodeState) :
    Agree s (decode_turn tables .Strict bytes s) (decode_turn tables .Replace bytes s) := by
  unfold decode_turn
  by_cases hend : bytes.length ≤ s.index
  · rw [if_pos hend, if_pos hend]
    exact .pure .done
  have h : s.index < bytes.length := Nat.lt_of_not_le hend
  rw [if_neg hend, if_neg hend]
  refine .bind (index_returns h) fun b => ?_
  -- the branches in the order of the source
  refine .ite (.same rfl) (.ite (.same rfl) (.ite (.same rfl) (.ite (.same rfl) ?_)))
  refine .ite (.pure (single_shift_agrees _)) (.ite (.pure (single_shift_agrees _)) ?_)
  refine .ite (escape_agrees h) (.ite (.same rfl) (.ite (.same rfl) (.ite (.same rfl) ?_)))
  refine .ite (csi_agrees h) (.ite (.pure (graphic_agrees _ _ _ _)) ?_)
  refine .ite (.pure (graphic_agrees _ _ _ _)) (.pure (resume_agrees count_replacement_counts _))

/-- A lossy loop ends, and what it has counted stays counted. The strict loop ends in the same state
if nothing is counted, and in an error otherwise. -/
theorem loops_agree (tables : GraphicTables) (bytes : List UInt8) (n : Nat) (s : DecodeState)
    {lossy : Decoded DecodeState}
    (h : loop (decode_turn tables .Replace bytes) n s = .ok lossy) :
    ∃ final, lossy = .ok final ∧
      (0 < s.diagnostic.replacement_count → 0 < final.diagnostic.replacement_count) ∧
      (s.diagnostic.replacement_count = 0 → ∃ strict,
        loop (decode_turn tables .Strict bytes) n s = .ok strict ∧
        ∀ end_state, strict = .ok end_state ↔
          final = end_state ∧ final.diagnostic.replacement_count = 0) := by
  induction n generalizing s with
  | zero => cases h
  | succ n ih =>
    obtain ⟨a, b, ha, hb, hagree⟩ := decode_turn_agrees tables bytes s
    simp only [loop, hb] at h
    simp only [loop, ha]
    cases hagree with
    | next hsame =>
      rw [← hsame]
      exact ih _ h
    | done =>
      cases h
      refine ⟨s, rfl, id, fun hzero => ⟨.ok s, rfl, fun end_state => ?_⟩⟩
      exact ⟨fun heq => ⟨Except.ok.inj heq, hzero⟩, fun heq => congrArg _ heq.1⟩
    | stops hpos =>
      obtain ⟨final, rfl, hkeeps, -⟩ := ih _ h
      have hfinal := hkeeps hpos
      refine ⟨final, rfl, fun _ => hfinal, fun _ => ⟨_, rfl, fun end_state => ?_⟩⟩
      exact ⟨fun h => (by cases h), fun hzero => absurd hzero.2 (Nat.ne_of_gt hfinal)⟩
    | gives_up hpos =>
      cases h
      refine ⟨_, rfl, fun _ => hpos, fun _ => ⟨_, rfl, fun end_state => ?_⟩⟩
      exact ⟨fun h => (by cases h), fun hzero => absurd hzero.2 (Nat.ne_of_gt hpos)⟩

end Turns

/-- For any bytes and any sets to start from: the strict decoder gives a text exactly if the lossy
one gives that text without a replacement, and then both are left with the same sets. -/
theorem strict_and_lossy_decoding_agree (tables : GraphicTables) (bytes : List UInt8)
    (state : InvocationState) :
    ∃ strict text diagnostic lossy_state,
      decode tables state bytes = .ok strict ∧
      decode_arib_string_with_policy tables bytes state .Replace =
        .ok (.ok (text, diagnostic, lossy_state)) ∧
      decode_arib_string_replacing tables bytes state = .ok (text, diagnostic) ∧
      (∀ s, strict.1 = .ok s ↔ text = s ∧ diagnostic.replacement_count = 0) ∧
      ∀ s, strict.1 = .ok s ↔ strict = (.ok s, lossy_state) := by
  obtain ⟨result, hresult, -⟩ := decode_arib_string_with_policy.spec bytes tables state .Replace
  unfold decode decode_arib_string_replacing
  unfold decode_arib_string_with_policy at hresult ⊢
  cases hlossy : loop (decode_turn tables .Replace bytes) (bytes.length + 1) { state } with
  | error fault =>
    rw [hlossy] at hresult
    cases hresult
  | ok lossy =>
    obtain ⟨final, rfl, -, hstrict⟩ := loops_agree tables bytes _ _ hlossy
    obtain ⟨strict, hloop, hiff⟩ := hstrict rfl
    rw [hloop]
    cases strict with
    | error error =>
      refine ⟨_, _, _, _, rfl, rfl, rfl, fun s => ⟨nofun, fun hzero => ?_⟩, fun s => ⟨nofun, nofun⟩⟩
      exact absurd ((hiff final).mpr ⟨rfl, hzero.2⟩) nofun
    | ok end_state =>
      obtain ⟨rfl, hzero⟩ := (hiff end_state).mp rfl
      refine ⟨_, _, _, _, rfl, rfl, rfl, fun s => ?_, fun s => ?_⟩
      · exact ⟨fun heq => ⟨Except.ok.inj heq, hzero⟩, fun heq => congrArg _ heq.1⟩
      · exact ⟨fun heq => congrArg (·, _) heq, fun heq => congrArg Prod.fst heq⟩

end arib_si_engine_rs.arib_string
