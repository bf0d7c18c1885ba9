-- One video PES packet in two divisions into TS payloads: the record index reports the
-- same start codes for both exactly when both show the same kinds. From the second
-- packet on, the tail that is carried over hides where a packet begins, and its header
-- is searched for start codes.
import TvStack.RecordIndexCuts

open Cuts Words

namespace tuner_hal2_demux.record_index

open packet_pipeline

/-- All start codes that are reported for a recording. -/
def sc_index_union (ts_mask : I32) (sc_index_type : Int) (mask : I32) (pieces : List Piece) : I32 :=
  ((record_events ts_mask sc_index_type mask pieces {} {}).map sc_bits).foldl (· ||| ·) 0

theorem foldl_or_bits (masks : List I32) (start : I32) (bit : Nat) :
    (masks.foldl (· ||| ·) start).getLsbD bit = true ↔
      start.getLsbD bit = true ∨ ∃ mask ∈ masks, mask.getLsbD bit = true := by
  induction masks generalizing start with
  | nil => simp
  | cons mask rest ih =>
    rw [List.foldl_cons, ih, BitVec.getLsbD_or, Bool.or_eq_true, List.exists_mem_cons_iff, or_assoc]

theorem sc_index_union_bits {ts_mask : I32} {sc_index_type : Int} {mask : I32} {pieces : List Piece}
    {whole : List UInt8} (hwhole : (pieces.map (·.payload)).flatten = whole) (bit : Nat) :
    (sc_index_union ts_mask sc_index_type mask pieces).getLsbD bit = true ↔
      mask.getLsbD bit = true ∧ ShownIn sc_index_type whole (pieces.map (·.payload)) bit := by
  rw [← reported_iff ts_mask hwhole, sc_index_union, foldl_or_bits]
  simp

theorem codeAt_of_complete {bytes : List UInt8} {summary : PesHeaderSummary}
    (h : parse_pes_header_status bytes = .Complete summary) : CodeAt bytes 0 := by
  obtain ⟨hstart, -, hlength, -⟩ := parse_pes_header_status.complete h
  match bytes, hstart, hlength with
  | a :: b :: c :: d :: rest, hstart, _ =>
    cases hstart
    exact ⟨rfl, rfl, rfl, by simp⟩

theorem looks_like_video {stream_id : UInt8} (h : 0xe0 ≤ stream_id ∧ stream_id ≤ 0xef) :
    looks_like_record_index_pes_stream stream_id = true := by
  unfold looks_like_record_index_pes_stream
  rw [decide_eq_true h.1, decide_eq_true h.2]
  exact Bool.or_true _

/-- A video PES packet without a length: its header, and the elementary stream behind it. -/
structure VideoPes where
  (header stream : List UInt8)
  summary : PesHeaderSummary
  complete : parse_pes_header_status header = .Complete summary
  offset : summary.payload_offset = header.length
  unbounded : summary.expected_len = none

namespace VideoPes

variable (pes : VideoPes)

def bytes : List UInt8 := pes.header ++ pes.stream

/-- In the stream no start code follows at once on another and none is that of a PES packet, and in
the header there is none but its own. -/
structure Clean : Prop where
  header : ∀ q, CodeAt pes.bytes q → q = 0 ∨ pes.header.length ≤ q
  apart : ∀ q, CodeAt pes.bytes q → pes.header.length ≤ q → ¬ CodeAt pes.bytes (q + 3)
  no_stream_id : ∀ q, CodeAt pes.bytes q → pes.header.length ≤ q →
    looks_like_record_index_pes_stream (byte pes.bytes (q + 3)) = false

variable (sc_index_type : Int)

/-- A payload has the first byte behind the prefix at `q`, and the others that tell a kind with this
bit. -/
def KeptBy (earlier piece : List UInt8) (q bit : Nat) : Prop :=
  earlier.length ≤ q + 3 ∧ ∃ n, q + 3 + n ≤ (earlier ++ piece).length ∧
    Tells sc_index_type ((pes.bytes.drop (q + 3)).take n) bit

/-- A payload of the division keeps the start code whole. -/
def Kept (payloads : List (List UInt8)) (q bit : Nat) : Prop :=
  ∃ earlier piece later, payloads = earlier ++ piece :: later ∧
    pes.KeptBy sc_index_type earlier.flatten piece q bit

/-! ## Clean packets -/

variable {pes} {sc_index_type} in
theorem Kept.tells {payloads : List (List UInt8)} {q bit : Nat}
    (h : pes.Kept sc_index_type payloads q bit) :
    Tells sc_index_type (pes.bytes.drop (q + 3)) bit := by
  obtain ⟨_, _, _, -, -, n, -, htells⟩ := h
  have hall := htells.append ((pes.bytes.drop (q + 3)).drop n)
  rwa [List.take_append_drop] at hall

variable {pes} {sc_index_type} {earlier piece later : List UInt8} {q bit : Nat}

theorem header_length (pes : VideoPes) : 6 ≤ pes.header.length :=
  (parse_pes_header_status.complete pes.complete).2.2.1

theorem begins (pes : VideoPes) : CodeAt pes.bytes 0 :=
  (codeAt_append _ (Nat.lt_of_lt_of_le (by decide) pes.header_length)).mpr
    (codeAt_of_complete pes.complete)

/-- A header without a length is that of a video stream. -/
theorem stream_id (pes : VideoPes) :
    looks_like_record_index_pes_stream (byte pes.bytes 3) = true := by
  have hlength := (parse_pes_header_status.complete pes.complete).2.2.2
  have hzero : pes_packet_length pes.header = 0 := by
    rw [pes.unbounded, pes_expected_len] at hlength
    by_contra hne
    rw [if_neg hne] at hlength
    cases hlength
  have hsix := pes.header_length
  unfold bytes
  rw [byte_append_left _ (by omega)]
  exact looks_like_video ((means_complete pes.complete).2.1 hzero)

/-- What begins with the packet is searched from the stream on, once the header is there. -/
theorem searched_packet {seen more : List UInt8} (hseen : seen ++ more = pes.bytes)
    (hlong : 3 < seen.length) {offset : Nat} :
    SearchedFrom seen offset ↔ pes.header.length ≤ seen.length ∧ offset = pes.header.length := by
  have hbegins : BeginsPes seen := by
    have hcode := pes.begins
    have hid := pes.stream_id
    rw [← hseen] at hcode hid
    rw [byte_append_left more hlong] at hid
    exact ⟨(codeAt_append more hlong).mp hcode, hid⟩
  have hcomplete {summary} (h : parse_pes_header_status seen = .Complete summary) :
      summary = pes.summary := by
    have hmore := parse_pes_header_status.stable seen more (by simp [h])
    rw [hseen, bytes, parse_pes_header_status.stable _ _ (by simp [pes.complete]), pes.complete,
      h] at hmore
    exact (PesHeaderParseStatus.Complete.inj hmore).symm
  constructor
  · rintro (hno | ⟨_, header, -⟩)
    · exact absurd hbegins hno
    · have hle := (parse_pes_header_status.complete header).2.1
      rw [hcomplete header, pes.offset] at hle ⊢
      exact ⟨hle, rfl⟩
  · rintro ⟨hle, rfl⟩
    obtain ⟨part, rfl⟩ : pes.header <+: seen :=
      List.prefix_of_prefix_length_le (List.prefix_append _ _) ⟨more, hseen⟩ hle
    have header := parse_pes_header_status.stable pes.header part (by simp [pes.complete])
    rw [pes.complete] at header
    exact pes.offset ▸ .packet hbegins header (by simp [pes.unbounded])

theorem Clean.met (hclean : pes.Clean) {start : Nat} (hstart : 0 < start) :
    Met pes.bytes start q ↔ start ≤ q ∧ CodeAt pes.bytes q := by
  refine met_of_apart fun r hr hcode => hclean.apart r hcode ?_
  exact (hclean.header r hcode).resolve_left (by omega)

/-- Behind the first three bytes nothing in a clean packet is taken for a header. -/
theorem Clean.not_beginsPes (hclean : pes.Clean) (hwhole : earlier ++ piece ++ later = pes.bytes)
    (hlate : 3 < earlier.length) : ¬ BeginsPes ((earlier ++ piece).drop (earlier.length - 3)) := by
  rintro ⟨hcode, hid⟩
  replace hcode := codeAt_drop.mp hcode
  have hinside := hcode.inside
  replace hcode := (codeAt_append later hinside).mpr hcode
  rw [byte_drop, ← byte_append_left later (by omega), hwhole] at hid
  rw [hwhole] at hcode
  have hheader := (hclean.header _ hcode).resolve_left (by omega)
  cases hid.symm.trans (hclean.no_stream_id _ hcode hheader)

/-- In a clean packet a payload shows the start codes of the stream that it keeps whole. -/
theorem Clean.shownBy (hclean : pes.Clean) (hwhole : earlier ++ piece ++ later = pes.bytes) :
    ShownBy sc_index_type pes.bytes earlier piece q bit ↔
      pes.header.length ≤ q ∧ CodeAt pes.bytes q ∧
        pes.KeptBy sc_index_type earlier piece q bit := by
  have hsix := pes.header_length
  have htold {n : Nat} (htells : Tells sc_index_type ((pes.bytes.drop (q + 3)).take n) bit) :
      n ≠ 0 := by
    rintro rfl
    exact not_tells_nil htells
  unfold ShownBy KeptBy
  rcases Nat.lt_or_ge 3 earlier.length with hlate | hearly
  · have hno := hclean.not_beginsPes hwhole hlate
    have hmet := hclean.met (q := q) (show 0 < earlier.length - 3 by omega)
    constructor
    · rintro ⟨⟨offset, hfrom, h⟩, hkept⟩
      cases hfrom with
      | packet hyes => exact absurd hyes hno
      | stream =>
        obtain ⟨hle, hcode⟩ := hmet.mp h
        exact ⟨(hclean.header q hcode).resolve_left (by omega), hcode, by omega, hkept⟩
    · rintro ⟨hq, hcode, hfirst, hkept⟩
      exact ⟨⟨0, .stream hno, hmet.mpr ⟨by omega, hcode⟩⟩, hkept⟩
  · have hmet := hclean.met (q := q) (show 0 < pes.header.length by omega)
    rw [show earlier.length - 3 = 0 by omega, List.drop_zero]
    constructor
    · rintro ⟨⟨offset, hfrom, h⟩, n, hle, htells⟩
      have hn := htold htells
      obtain ⟨-, rfl⟩ := (searched_packet hwhole (by omega)).mp hfrom
      rw [Nat.zero_add] at h
      obtain ⟨hq, hcode⟩ := hmet.mp h
      exact ⟨hq, hcode, by omega, n, hle, htells⟩
    · rintro ⟨hq, hcode, hfirst, n, hle, htells⟩
      have hn := htold htells
      refine ⟨⟨pes.header.length, (searched_packet hwhole (by omega)).mpr ⟨by omega, rfl⟩, ?_⟩, n,
        hle, htells⟩
      rw [Nat.zero_add]
      exact hmet.mpr ⟨hq, hcode⟩

theorem Clean.shownIn (hclean : pes.Clean) {payloads : List (List UInt8)}
    (hpayloads : payloads.flatten = pes.bytes) :
    ShownIn sc_index_type pes.bytes payloads bit ↔ ∃ q, pes.header.length ≤ q ∧
      CodeAt pes.bytes q ∧ pes.Kept sc_index_type payloads q bit := by
  have hwhole {earlier : List (List UInt8)} {piece : List UInt8} {later : List (List UInt8)}
      (hsplit : payloads = earlier ++ piece :: later) :
      earlier.flatten ++ piece ++ later.flatten = pes.bytes := by
    rw [← hpayloads, hsplit]
    simp
  constructor
  · rintro ⟨earlier, piece, later, hsplit, q, h⟩
    obtain ⟨hq, hcode, hkept⟩ := (hclean.shownBy (hwhole hsplit)).mp h
    exact ⟨q, hq, hcode, earlier, piece, later, hsplit, hkept⟩
  · rintro ⟨q, hq, hcode, earlier, piece, later, hsplit, hkept⟩
    exact ⟨earlier, piece, later, hsplit, q,
      (hclean.shownBy (hwhole hsplit)).mpr ⟨hq, hcode, hkept⟩⟩

end VideoPes

/-! ## Two divisions -/

/-- Two divisions of a video PES packet give the same start codes exactly when they show the same
kinds. In a clean packet a division shows the kinds of the start codes that it keeps whole. -/
theorem same_start_codes_where_shown (pes : VideoPes) (sc_index_type : Int)
    (mask ts_mask ts_mask' : I32) (pieces pieces' : List Piece)
    (hpieces : (pieces.map (·.payload)).flatten = pes.bytes)
    (hpieces' : (pieces'.map (·.payload)).flatten = pes.bytes) :
    (sc_index_union ts_mask sc_index_type mask pieces =
        sc_index_union ts_mask' sc_index_type mask pieces' ↔
      ∀ bit, mask.getLsbD bit = true →
        (ShownIn sc_index_type pes.bytes (pieces.map (·.payload)) bit ↔
          ShownIn sc_index_type pes.bytes (pieces'.map (·.payload)) bit)) ∧
    (pes.Clean → ∀ bit, ShownIn sc_index_type pes.bytes (pieces.map (·.payload)) bit ↔
      ∃ q, pes.header.length ≤ q ∧ CodeAt pes.bytes q ∧
        pes.Kept sc_index_type (pieces.map (·.payload)) q bit) ∧
    (pes.Clean →
      (∀ q bit, pes.header.length ≤ q → CodeAt pes.bytes q →
        Tells sc_index_type (pes.bytes.drop (q + 3)) bit →
        pes.Kept sc_index_type (pieces.map (·.payload)) q bit ∧
          pes.Kept sc_index_type (pieces'.map (·.payload)) q bit) →
      sc_index_union ts_mask sc_index_type mask pieces =
        sc_index_union ts_mask' sc_index_type mask pieces') := by
  have hiff : sc_index_union ts_mask sc_index_type mask pieces =
      sc_index_union ts_mask' sc_index_type mask pieces' ↔ ∀ bit, mask.getLsbD bit = true →
        (ShownIn sc_index_type pes.bytes (pieces.map (·.payload)) bit ↔
          ShownIn sc_index_type pes.bytes (pieces'.map (·.payload)) bit) := by
    constructor
    · intro heq bit hbit
      have hsame := congrArg (BitVec.getLsbD · bit = true) heq
      rw [eq_iff_iff, sc_index_union_bits hpieces, sc_index_union_bits hpieces'] at hsame
      simpa [hbit] using hsame
    · intro hshown
      refine BitVec.eq_of_getLsbD_eq fun bit _ => ?_
      rw [Bool.eq_iff_iff, sc_index_union_bits hpieces, sc_index_union_bits hpieces']
      exact and_congr_right (hshown bit)
  refine ⟨hiff, fun hclean bit => hclean.shownIn hpieces, fun hclean hkept =>
    hiff.mpr fun bit _ => ?_⟩
  rw [hclean.shownIn hpieces, hclean.shownIn hpieces']
  refine exists_congr fun q => and_congr_right fun hq => and_congr_right fun hcode => ?_
  constructor
  · intro h
    exact (hkept q bit hq hcode h.tells).2
  · intro h
    exact (hkept q bit hq hcode h.tells).1

namespace SequenceParameters

/-- A packet of PID 0x0100 with a short payload. -/
def bytes (payload_unit_start : Bool) (counter : UInt8) (payload : List UInt8) : List UInt8 :=
  [0x47, if payload_unit_start then 0x41 else 0x01, 0x00, 0x30 ||| counter,
    183 - UInt8.ofNat payload.length, 0x00] ++ List.replicate (182 - payload.length) 0xff ++ payload

def view (payload_unit_start : Bool) (counter : UInt8) (payload : List UInt8) : TsPacketView where
  pid := ⟨0x0100, low_pid⟩
  transport_error_indicator := false
  payload_unit_start
  priority := false
  scrambling_control := 0
  continuity_counter := counter
  flags := {}
  payload := some payload

/-- The packet with a counter is behind as many others. -/
def short (payload_unit_start : Bool) (counter : UInt8) (payload : List UInt8)
    (hlength : (bytes payload_unit_start counter payload).length = tuner_hal2_common.TS_PACKET_SIZE)
    (hvalid : TsPacketView.validate (bytes payload_unit_start counter payload) =
      .ok (view payload_unit_start counter payload)) : Piece where
  packet := ⟨⟨_, hlength⟩, _, hvalid⟩
  cumulative_bytes := 188 * counter.toNat
  payload
  payload_eq := rfl
  no_error := rfl
  clear := rfl
  in_order := rfl
  in_range := by
    have := counter.toNat_lt
    unfold I64_MAX
    omega

/-- A header, and the first bytes of a sequence parameter set. -/
def pes : VideoPes where
  header := [0x00, 0x00, 0x01, 0xe0, 0x00, 0x00, 0x80, 0x00, 0x00]
  stream := [0x00, 0x00, 0x01, 0x42, 0x01]
  summary := ⟨0xe0, 9, none, none, false, false, none⟩
  complete := by decide +kernel
  offset := rfl
  unbounded := rfl

/-- The division that cuts the packet behind its first `n + 1` bytes. -/
def cut (n : Fin 13) : List Piece :=
  [short true 0 (pes.bytes.take (n + 1)) (by revert n; decide +kernel)
      (by revert n; decide +kernel),
    short false 1 (pes.bytes.drop (n + 1)) (by revert n; decide +kernel)
      (by revert n; decide +kernel)]

theorem divided (n : Fin 13) : ((cut n).map (·.payload)).flatten = pes.bytes := by
  revert n
  decide

def fullMask : I32 := supported_record_sc_index_mask RECORD_SC_TYPE_SC_HEVC

theorem cut_behind_the_code_is_lost :
    ((cut 10).map (·.payload)).flatten = pes.bytes ∧
    ((cut 12).map (·.payload)).flatten = pes.bytes ∧
    sc_index_union 0 RECORD_SC_TYPE_SC_HEVC fullMask (cut 10) = HEVC_SC_SPS ∧
    sc_index_union 0 RECORD_SC_TYPE_SC_HEVC fullMask (cut 12) = 0 :=
  ⟨divided 10, divided 12, by decide +kernel, by decide +kernel⟩

/-- The cuts in the header and in the prefix are all alike. -/
theorem cuts_in_the_prefix_are_seen : pes.Clean ∧
    (∀ n : Fin 12,
      sc_index_union 0 RECORD_SC_TYPE_SC_HEVC fullMask (cut n.castSucc) = HEVC_SC_SPS) ∧
    ∀ bit, fullMask.getLsbD bit = true →
      (ShownIn RECORD_SC_TYPE_SC_HEVC pes.bytes ((cut 3).map (·.payload)) bit ↔
        ShownIn RECORD_SC_TYPE_SC_HEVC pes.bytes ((cut 11).map (·.payload)) bit) :=
  ⟨⟨by decide +kernel, by decide +kernel, by decide +kernel⟩, by decide +kernel,
    (same_start_codes_where_shown pes RECORD_SC_TYPE_SC_HEVC fullMask 0 0 (cut 3) (cut 11)
      (divided 3) (divided 11)).1.mp (by decide +kernel)⟩

end SequenceParameters

variable {sc_index_type : Int} {packets payloads : List (List UInt8)}

/-! ## The prefixes of PES packets -/

/-- A video PES packet: its header is complete, and so is the packet if it has a length. -/
structure IsVideoPes (pes : List UInt8) : Prop where
  stream_id : 0xe0 ≤ byte pes 3 ∧ byte pes 3 ≤ 0xef
  header : ∃ summary, parse_pes_header_status pes = .Complete summary ∧
    (summary.expected_len = none ∨ summary.expected_len = some pes.length)

/-- A prefix in the header of the first packet. The first payload has this header and the byte
behind the prefix. -/
def InFirstHeader (payloads : List (List UInt8)) (q : Nat) : Prop :=
  ∃ first rest summary, payloads = first :: rest ∧
    parse_pes_header_status first = .Complete summary ∧ q < summary.payload_offset ∧
    q + 3 < first.length

/-- The stream has no prefix of a start code but those at the start of its packets, and others in a
first header that is not cut. -/
def OnlyPesPrefixes (packets payloads : List (List UInt8)) : Prop :=
  ∀ q, CodeAt packets.flatten q →
    (∃ earlier later, packets = earlier ++ later ∧ q = earlier.flatten.length) ∨
      InFirstHeader payloads q

/-- The stream id and the length of a packet are not taken for the first bytes of a NAL unit that is
indexed: that of a slice, or those of a picture, a parameter set or a delimiter of VVC. -/
structure PlainStart (sc_index_type : Int) (pes : List UInt8) : Prop where
  avc : sc_index_type = RECORD_SC_TYPE_SC_AVC →
    byte pes 3 ∉ [0xe1, 0xe2, 0xe3, 0xe4, 0xe5]
  vvc : sc_index_type = RECORD_SC_TYPE_SC_VVC →
    (byte pes 4 >>> 3).toNat ∉ [7, 8, 9, 10, 14, 15, 20]

/-- A video stream id is no code of a picture, and no type of a NAL unit of HEVC that is indexed. -/
theorem video_stream_id : ∀ code : UInt8, 0xe0 ≤ code ∧ code ≤ 0xef →
    code ≠ 0x00 ∧ code ≠ 0xb3 ∧ hevc_nal_mask ((code >>> 1) &&& 0x3f).toNat = 0 ∧
      (1 ≤ code &&& 0x1f ∧ code &&& 0x1f ≤ 5 → code ∈ [0xe1, 0xe2, 0xe3, 0xe4, 0xe5]) :=
  every_byte (by decide +kernel)

theorem vvc_nal_mask_plain : ∀ code : UInt8, (code >>> 3).toNat ∉ [7, 8, 9, 10, 14, 15, 20] →
    vvc_nal_mask ((code >>> 3) &&& 0x1f).toNat = 0 :=
  every_byte (by decide +kernel)

/-- What is behind the prefix of a packet is not taken for a start code, wherever it is cut. -/
theorem parse_sc_index_pes {code : UInt8} {rest : List UInt8} {pes : List UInt8}
    (hcode : byte pes 3 = code) (hrest : rest ≠ [] → byte rest 0 = byte pes 4)
    (hvideo : 0xe0 ≤ code ∧ code ≤ 0xef) (hplain : PlainStart sc_index_type pes) :
    parse_sc_index sc_index_type (code :: rest) = none := by
  obtain ⟨hzero, hsequence, hhevc, havc⟩ := video_stream_id code hvideo
  unfold parse_sc_index
  split_ifs with h₁ h₂ h₃ h₄
  · simp [parse_generic_sc_index, hzero, hsequence, RecordStartCodeInfo.of_mask]
  · exact if_neg fun htype => hplain.avc h₂ (hcode ▸ havc htype)
  · unfold parse_hevc_sc_index
    split
    · rfl
    · exact if_neg (not_not_intro hhevc)
  · unfold parse_vvc_sc_index
    split
    · rfl
    rename_i hlong
    have hsome : rest ≠ [] := by
      rintro rfl
      exact hlong Nat.one_lt_two
    refine if_neg (not_not_intro ?_)
    change vvc_nal_mask ((byte rest 0 >>> 3) &&& 0x1f).toNat = 0
    rw [hrest hsome]
    exact vvc_nal_mask_plain _ (hplain.vvc h₄)
  · rfl

/-- What begins with the first packet begins like one. -/
theorem first_begins (hvideo : ∀ pes ∈ packets, IsVideoPes pes) {seen more : List UInt8}
    (hseen : seen ++ more = packets.flatten) (hlong : 3 < seen.length) : BeginsPes seen := by
  cases packets with
  | nil => simp_all
  | cons pes rest =>
    obtain ⟨hid, summary, hheader, -⟩ := hvideo pes List.mem_cons_self
    have hsix := (parse_pes_header_status.complete hheader).2.2.1
    have hcode := (codeAt_append rest.flatten (by omega)).mpr (codeAt_of_complete hheader)
    have hlooks := looks_like_video hid
    rw [← byte_append_left rest.flatten (by omega)] at hlooks
    rw [← List.flatten_cons, ← hseen] at hcode hlooks
    rw [byte_append_left more hlong] at hlooks
    exact ⟨(codeAt_append more hlong).mp hcode, hlooks⟩

/-- What is behind the prefix of a later packet tells nothing. -/
theorem not_tells_pes {pes later : List UInt8} (hpes : IsVideoPes pes)
    (hplain : PlainStart sc_index_type pes) {n bit : Nat} :
    ¬ Tells sc_index_type (((pes ++ later).drop 3).take n) bit := by
  rintro ⟨info, hparse, hbit⟩
  obtain ⟨summary, hheader, -⟩ := hpes.header
  have hsix := (parse_pes_header_status.complete hheader).2.2.1
  have hid := hpes.stream_id
  match n, pes, hsix with
  | 0, _, _ => exact not_tells_nil ⟨info, hparse, hbit⟩
  | n + 1, a :: b :: c :: code :: high :: tail, _ =>
    have hnone : parse_sc_index sc_index_type (code :: (high :: tail ++ later).take n) = none := by
      refine parse_sc_index_pes rfl (fun hsome => ?_) hid hplain
      cases n with
      | zero => exact absurd rfl hsome
      | succ n => rfl
    cases hnone.symm.trans hparse

/-- No start code is shown. -/
theorem OnlyPesPrefixes.not_shown (honly : OnlyPesPrefixes packets payloads)
    (hvideo : ∀ pes ∈ packets, IsVideoPes pes)
    (hplain : ∀ pes ∈ packets.tail, PlainStart sc_index_type pes)
    (hpayloads : payloads.flatten = packets.flatten) (bit : Nat) :
    ¬ ShownIn sc_index_type packets.flatten payloads bit := by
  rintro ⟨earlier, piece, later, hsplit, q, ⟨offset, hfrom, hmet⟩, n, hle, htells⟩
  have hwhole : earlier.flatten ++ piece ++ later.flatten = packets.flatten := by
    rw [← hpayloads, hsplit]
    simp
  obtain ⟨hstart, hcode⟩ := hmet.code
  rcases honly q hcode with ⟨before, behind, rfl, hq⟩
    | ⟨first, rest, summary, rfl, hheader, hq, hin⟩
  · cases before with
    | nil =>
      -- the search of what begins with the first packet begins behind its header
      replace hq : q = 0 := hq
      have hn : n ≠ 0 := by
        rintro rfl
        exact not_tells_nil htells
      rw [show earlier.flatten.length - 3 = 0 by omega, List.drop_zero] at hfrom
      have hbegins := first_begins hvideo hwhole (by omega)
      cases hfrom with
      | stream hno => exact hno hbegins
      | packet _ header _ =>
        have hoffset := (means_complete header).1.2.2.1
        omega
    | cons other before =>
      cases behind with
      | nil =>
        have hinside := hcode.inside
        simp [hq] at hinside
      | cons pes rest =>
        rw [hq, List.flatten_append, ← List.drop_drop, List.drop_left, List.flatten_cons] at htells
        exact not_tells_pes (hvideo pes (by simp)) (hplain pes (by simp)) htells
  · cases earlier with
    | nil =>
      cases hsplit
      have hbegins := first_begins hvideo hwhole (by simp; omega)
      cases hfrom with
      | stream hno => exact hno hbegins
      | packet _ header _ =>
        cases header.symm.trans hheader
        omega
    | cons first' more =>
      cases hsplit
      simp only [List.flatten_cons, List.length_append] at hstart
      omega

/-! ## Several packets -/

/-- No start code is reported for some video PES packets exactly when their payloads show none of a
kind of the mask. They show none where the stream has no other prefix than those of the packets, and
the first bytes of none but the first packet are taken for those of a NAL unit. -/
theorem pes_headers_are_not_indexed (packets : List (List UInt8))
    (hvideo : ∀ pes ∈ packets, IsVideoPes pes) (sc_index_type : Int) (ts_mask mask : I32)
    (pieces : List Piece) (hpieces : (pieces.map (·.payload)).flatten = packets.flatten) :
    ((∀ event ∈ record_events ts_mask sc_index_type mask pieces {} {}, sc_bits event = 0) ↔
      ∀ bit, mask.getLsbD bit = true →
        ¬ ShownIn sc_index_type packets.flatten (pieces.map (·.payload)) bit) ∧
    (OnlyPesPrefixes packets (pieces.map (·.payload)) →
      (∀ pes ∈ packets.tail, PlainStart sc_index_type pes) →
      ∀ event ∈ record_events ts_mask sc_index_type mask pieces {} {}, sc_bits event = 0) := by
  have hiff : (∀ event ∈ record_events ts_mask sc_index_type mask pieces {} {}, sc_bits event = 0) ↔
      ∀ bit, mask.getLsbD bit = true →
        ¬ ShownIn sc_index_type packets.flatten (pieces.map (·.payload)) bit := by
    constructor
    · intro hnone bit hbit hshown
      obtain ⟨event, hevent, hset⟩ := (reported_iff ts_mask hpieces bit).mpr ⟨hbit, hshown⟩
      simp [hnone event hevent] at hset
    · intro hnone event hevent
      have hclear (bit : Nat) : ¬ (sc_bits event).getLsbD bit = true := fun hset =>
        let ⟨hbit, hshown⟩ := (reported_iff ts_mask hpieces bit).mp ⟨event, hevent, hset⟩
        hnone bit hbit hshown
      exact BitVec.eq_of_getLsbD_eq fun bit _ => by simpa using hclear bit
  exact ⟨hiff, fun honly hplain => hiff.mpr fun bit _ => honly.not_shown hvideo hplain hpieces bit⟩

namespace TwoPackets

open SequenceParameters (short)

/-- A packet with one byte of video. -/
def firstPes : List UInt8 := [0x00, 0x00, 0x01, 0xe0, 0x00, 0x04, 0x80, 0x00, 0x00, 0xff]

/-- A packet whose stream begins with what would end a prefix. -/
def secondPes : List UInt8 :=
  [0x00, 0x00, 0x01, 0xe0, 0x00, 0x07, 0x80, 0x00, 0x00, 0x01, 0x65, 0x88, 0x80]

/-- A packet of another video stream; its stream id would be that of a slice. -/
def slicePes : List UInt8 := [0x00, 0x00, 0x01, 0xe1, 0x00, 0x04, 0x80, 0x00, 0x00, 0xff]

/-- Each packet is in a payload of its own. -/
def ownPayloads : List Piece :=
  [short true 0 firstPes (by decide +kernel) (by decide +kernel),
    short true 1 secondPes (by decide +kernel) (by decide +kernel)]

/-- The header of the second packet is cut. -/
def cutPayloads : List Piece :=
  [short true 0 slicePes (by decide +kernel) (by decide +kernel),
    short true 1 (firstPes.take 5) (by decide +kernel) (by decide +kernel),
    short false 2 (firstPes.drop 5) (by decide +kernel) (by decide +kernel)]

theorem isVideo : IsVideoPes firstPes ∧ IsVideoPes secondPes ∧ IsVideoPes slicePes :=
  ⟨⟨by decide, ⟨0xe0, 9, none, none, false, false, some 10⟩, by decide +kernel, .inr rfl⟩,
    ⟨by decide, ⟨0xe0, 9, none, none, false, false, some 13⟩, by decide +kernel, .inr rfl⟩,
    ⟨by decide, ⟨0xe1, 9, none, none, false, false, some 10⟩, by decide +kernel, .inr rfl⟩⟩

theorem codes : ∀ q, CodeAt [slicePes, firstPes].flatten q → q = 0 ∨ q = 10 := by decide +kernel

theorem two_packets_report_nothing :
    OnlyPesPrefixes [slicePes, firstPes] (cutPayloads.map (·.payload)) ∧
    ∀ event ∈ record_events 0 RECORD_SC_TYPE_SC_AVC AVC_SC_I_SLICE cutPayloads {} {},
      sc_bits event = 0 := by
  have honly : OnlyPesPrefixes [slicePes, firstPes] (cutPayloads.map (·.payload)) := by
    intro q hq
    rcases codes q hq with rfl | rfl
    · exact .inl ⟨[], _, rfl, rfl⟩
    · exact .inl ⟨[slicePes], _, rfl, rfl⟩
  refine ⟨honly, (pes_headers_are_not_indexed [slicePes, firstPes]
    (by simpa using ⟨isVideo.2.2, isVideo.1⟩) _ 0 _ cutPayloads rfl).2 honly ?_⟩
  simpa using ⟨fun _ => by decide, fun _ => by decide⟩

/-- The stream of the two packets has no prefix, and a slice is reported for the second. -/
theorem the_end_of_a_header_is_a_start_code :
    IsVideoPes firstPes ∧ IsVideoPes secondPes ∧
      (∀ q, ¬ CodeAt (firstPes.drop 9 ++ secondPes.drop 9) q) ∧
      (record_events 0 RECORD_SC_TYPE_SC_AVC AVC_SC_I_SLICE ownPayloads {} {}).map sc_bits =
        [0, AVC_SC_I_SLICE] :=
  ⟨isVideo.1, isVideo.2.1, by decide +kernel, by decide +kernel⟩

end TwoPackets

end tuner_hal2_demux.record_index
