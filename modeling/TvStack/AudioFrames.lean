-- One audio frame, from however many payloads: its header is read byte by byte
-- as far as the payload goes, its anchor is committed once, and its body ends
-- where the header says. The loop over a chunk always ends.
import TvStack.AudioTimestamps

open List Loops Words

namespace tuner_hal2_demux.av

open HeaderVars

/-- A frame with a header that the parser accepts. -/
structure AudioFrame where
  bytes : List UInt8
  header : AudioFrameHeader
  parsed : parse_audio_frame_header bytes = .Complete header
  whole : bytes.length = header.frame_len

namespace AudioFrame

variable (f : AudioFrame)

theorem header_le : f.header.parsed_header_len ≤ f.bytes.length := by
  rw [f.whole]
  exact (parse_audio_frame_header.parsed f.parsed).in_frame

theorem header_pos : 0 < f.header.parsed_header_len := by
  by_contra hzero
  have hempty := (parse_audio_frame_header.parsed f.parsed).whole 0 (by omega)
  cases hempty

variable (q : Nat) (start : AudioFrameInProgress)

/-- The frame with its first `q` bytes read, while its header is not read. -/
def reading : AudioFrameInProgress :=
  { start with bytes := f.bytes.take q, expected_len := none }

/-- The frame with its first `q` bytes read, and its header. -/
def filling : AudioFrameInProgress :=
  { start with bytes := f.bytes.take q, expected_len := some f.bytes.length }

/-- The frame with its first `q` bytes read. Its length is known once its header is. -/
def progress : AudioFrameInProgress :=
  if q < f.header.parsed_header_len then f.reading q start else f.filling q start

/-- The anchor while `q` bytes of the frame are read: the header turns `before` into `behind`. -/
def anchorAt (before : Option AudioTimestampAnchor) (behind : AudioTimestampAnchor) (q : Nat) :
    Option AudioTimestampAnchor :=
  if q < f.header.parsed_header_len then before else some behind

/-- The payload goes on with the frame behind its first `q` bytes. -/
def Continues (remaining : List UInt8) : Prop :=
  remaining.take (f.bytes.length - q) = (f.bytes.drop q).take remaining.length

variable {f} {q : Nat} {remaining : List UInt8}

/-- The bytes of the frame behind `c` more bytes. -/
theorem Continues.take_append (h : f.Continues q remaining) {c : Nat} (hc : q + c ≤ f.bytes.length)
    (hr : c ≤ remaining.length) : f.bytes.take q ++ remaining.take c = f.bytes.take (q + c) := by
  have htake : remaining.take c = (f.bytes.drop q).take c := by
    have hprefix := congrArg (List.take c) h
    rw [take_take, take_take, Nat.min_eq_left (by omega), Nat.min_eq_left hr] at hprefix
    exact hprefix
  rw [htake, take_add]

theorem Continues.drop (h : f.Continues q remaining) (c : Nat) :
    f.Continues (q + c) (remaining.drop c) := by
  have hdrop := congrArg (List.drop c) h
  rw [drop_take, drop_take, drop_drop] at hdrop
  unfold Continues
  rw [length_drop, Nat.sub_add_eq]
  exact hdrop

end AudioFrame

/-! ## The header loop -/

/-- A turn that goes on moves bytes of the header to the frame. -/
theorem HeaderVars.turn_yield {v w : HeaderVars} (h : v.turn = .yield w) :
    w.exit = v.exit ∧ w.remaining.length < v.remaining.length ∧ w.size < v.size := by
  unfold turn at h
  split at h
  · split at h
    · cases h
    dsimp only at h
    split at h
    · cases h
    rename_i hlen
    cases h
    refine ⟨rfl, ?_⟩
    simp only [size, consume, length_append, length_take, length_drop] at hlen ⊢
    omega
  · cases h
  · cases h

theorem HeaderVars.turn_lowers : Lowers turn size :=
  fun _ _ h => (turn_yield h).2.2

variable {f : AudioFrame} {q : Nat} {remaining : List UInt8} {start : AudioFrameInProgress}
  {before : Option AudioTimestampAnchor} {behind : AudioTimestampAnchor}

/-- A turn before the header is complete reads up to some byte of the header. -/
theorem turn_part (before : Option AudioTimestampAnchor) (start : AudioFrameInProgress)
    (hq : q < f.header.parsed_header_len) (hc : f.Continues q remaining) :
    ∃ required_len, q < required_len ∧ required_len ≤ f.header.parsed_header_len ∧
      turn ⟨before, f.reading q start, remaining, none⟩ =
        if q + remaining.length < required_len then
          .done ⟨before, f.reading (q + remaining.length) start, [], some (.ok false)⟩
        else
          .yield ⟨before, f.reading required_len start, remaining.drop (required_len - q),
            none⟩ := by
  have hparsed := parse_audio_frame_header.parsed f.parsed
  obtain ⟨required_len, hmore, hlt, hle⟩ := hparsed.part q hq
  refine ⟨required_len, hlt, hle, ?_⟩
  have hmax := hparsed.header_len
  have hlong := f.header_le
  have hlen : (f.bytes.take q).length = q := by rw [length_take]; omega
  simp only [turn, AudioFrame.reading, hmore, hlen, consume]
  rw [if_neg (by omega)]
  by_cases hshort : q + remaining.length < required_len
  · have hall : min (required_len - q) remaining.length = remaining.length :=
      Nat.min_eq_right (by omega)
    have hbytes := hc.take_append (by omega) le_rfl
    rw [hall, hbytes, drop_length, if_pos hshort, length_take, if_pos (by omega)]
  · have hsome : min (required_len - q) remaining.length = required_len - q :=
      Nat.min_eq_left (by omega)
    have hbytes := hc.take_append (c := required_len - q) (by omega) (by omega)
    rw [Nat.add_sub_cancel' hlt.le] at hbytes
    rw [hsome, hbytes, if_neg hshort, length_take, if_neg (by omega)]

theorem turn_whole (hcommit : commit_frame_header before f.header start.frame_pts_90khz
      start.reanchor = .ok behind) :
    turn ⟨before, f.reading f.header.parsed_header_len start, remaining, none⟩ =
      .done ⟨some behind, f.filling f.header.parsed_header_len start, remaining,
        some (.ok true)⟩ := by
  have hparsed := parse_audio_frame_header.parsed f.parsed
  have hlong := f.header_le
  simp only [turn, AudioFrame.reading, hparsed.whole _ le_rfl,
    HeaderVars.complete, length_take]
  rw [if_neg (by omega)]
  simp only [hcommit, AudioFrame.filling, f.whole]

/-- The header loop reads the header, or all of the payload when that is shorter. -/
theorem header_loop.spec (hq : q ≤ f.header.parsed_header_len) (hc : f.Continues q remaining)
    (hcommit : commit_frame_header before f.header start.frame_pts_90khz start.reanchor =
      .ok behind) :
    loop turn size ⟨before, f.reading q start, remaining, none⟩ =
      if q + remaining.length < f.header.parsed_header_len then
        ⟨before, f.reading (q + remaining.length) start, [], some (.ok false)⟩
      else
        ⟨some behind, f.filling f.header.parsed_header_len start,
          remaining.drop (f.header.parsed_header_len - q), some (.ok true)⟩ := by
  induction hn : f.header.parsed_header_len - q using Nat.strongRecOn generalizing q remaining with
  | _ n ih =>
    by_cases hend : q = f.header.parsed_header_len
    · subst hend
      rw [loop_done turn_lowers (turn_whole hcommit), if_neg (by omega)]
      simp only [Nat.sub_self] at hn
      subst hn
      rw [drop_zero]
    obtain ⟨required_len, hlt, hle, hturn⟩ :=
      turn_part before start (Nat.lt_of_le_of_ne hq hend) hc
    by_cases hshort : q + remaining.length < required_len
    · rw [if_pos hshort] at hturn
      rw [loop_done turn_lowers hturn, if_pos (by omega)]
    rw [if_neg hshort] at hturn
    have hnext := hc.drop (required_len - q)
    rw [Nat.add_sub_cancel' hlt.le] at hnext
    have hrest := ih (f.header.parsed_header_len - required_len) (by omega) hle hnext rfl
    rw [loop_yield turn_lowers hturn, hrest, length_drop, drop_drop]
    have hsum : required_len + (remaining.length - (required_len - q)) = q + remaining.length := by
      omega
    have hdrop : required_len - q + (f.header.parsed_header_len - required_len) = n := by omega
    rw [hsum, hdrop]

/-! ## One frame -/

/-- The frame as it is returned. -/
def AudioFrame.media (f : AudioFrame) (start : AudioFrameInProgress) : AudioMediaFrame where
  payload := f.bytes
  metadata :=
    { stream_id := start.stream_id
      is_pts_present := start.is_pts_present
      pts_90khz := some start.frame_pts_90khz
      is_dts_present := start.dts_90khz.isSome
      dts_90khz := start.dts_90khz
      is_pes_private_data := start.is_pes_private_data }

namespace AudioTimestampAssociation

variable {a : AudioTimestampAssociation}

/-- The association inside the frame, or at its end. -/
def within (a : AudioTimestampAssociation) (f : AudioFrame) (q : Nat)
    (start : AudioFrameInProgress) (anchor : Option AudioTimestampAnchor) :
    AudioTimestampAssociation :=
  { a with
    anchor
    assembly := if q < f.bytes.length then .Frame (f.progress q start) else .Boundary }

theorem within_reading (hq : q < f.header.parsed_header_len)
    (anchor : Option AudioTimestampAnchor) :
    a.within f q start anchor = { a with anchor, assembly := .Frame (f.reading q start) } := by
  have hheader := f.header_le
  rw [within, if_pos (by omega), AudioFrame.progress, if_pos hq]

theorem within_filling (hq : f.header.parsed_header_len ≤ q) (hlen : q < f.bytes.length)
    (anchor : Option AudioTimestampAnchor) :
    a.within f q start anchor = { a with anchor, assembly := .Frame (f.filling q start) } := by
  rw [within, if_pos hlen, AudioFrame.progress, if_neg (by omega)]

theorem within_end (hq : f.bytes.length ≤ q) (anchor : Option AudioTimestampAnchor) :
    a.within f q start anchor = { a with anchor, assembly := .Boundary } := by
  rw [within, if_neg (by omega)]

/-- The body of the frame takes what is missing, or all of the payload when that is shorter. -/
theorem fill_body.spec (a : AudioTimestampAssociation) (start : AudioFrameInProgress)
    (hq : f.header.parsed_header_len ≤ q) (hlen : q ≤ f.bytes.length)
    (hc : f.Continues q remaining) (outputs : List AudioMediaFrame) {c : Nat}
    (hmin : c = min (f.bytes.length - q) remaining.length) :
    a.fill_body (f.filling q start) remaining outputs =
      .ok (a.within f (q + c) start a.anchor, remaining.drop c,
        if q + c < f.bytes.length then outputs else outputs ++ [f.media start]) := by
  have hbytes := hc.take_append (c := c) (by omega) (by omega)
  have htake : (f.bytes.take q).length = q := by rw [length_take]; omega
  simp only [fill_body, AudioFrame.filling, checked_sub, htake, hlen, if_true, ← hmin, hbytes]
  rw [length_take]
  by_cases hend : q + c < f.bytes.length
  · rw [if_pos (by omega), if_pos hend, within_filling (by omega) hend]
    rfl
  have hall : f.bytes.take (q + c) = f.bytes := take_of_length_le (by omega)
  rw [if_neg (by omega), if_neg hend, within_end (by omega), hall]
  rfl

/-- `fill_frame` while the header is read, by the end of the header loop. -/
theorem fill_frame_header {frame : AudioFrameInProgress} {v : HeaderVars}
    (hassembly : a.assembly = .Frame frame) (hnone : frame.expected_len = none)
    (hloop : loop turn size ⟨a.anchor, frame, remaining, none⟩ = v)
    (outputs : List AudioMediaFrame) :
    a.fill_frame remaining outputs =
      match v.exit with
      | some (.ok true) => fill_body { a with anchor := v.anchor } v.frame v.remaining outputs
      | some (.ok false) => .ok ({ a with assembly := .Frame v.frame }, v.remaining, outputs)
      | some (.error e) => .error e
      | none => .error .UnsupportedOrMalformedFrames := by
  subst hloop
  simp only [fill_frame, hassembly, hnone]
  rfl

/-- One call of `fill_frame` takes what is missing of the frame, or all of the payload when that
is shorter. -/
theorem fill_frame.spec (a : AudioTimestampAssociation) (hq : q < f.bytes.length)
    (hc : f.Continues q remaining)
    (hcommit : commit_frame_header before f.header start.frame_pts_90khz start.reanchor =
      .ok behind) (outputs : List AudioMediaFrame) {c : Nat}
    (hmin : c = min (f.bytes.length - q) remaining.length) :
    (a.within f q start (f.anchorAt before behind q)).fill_frame remaining outputs =
      .ok (a.within f (q + c) start (f.anchorAt before behind (q + c)), remaining.drop c,
        if q + c < f.bytes.length then outputs else outputs ++ [f.media start]) := by
  have hheader := f.header_le
  by_cases hread : q < f.header.parsed_header_len
  · -- the header is not complete yet
    have hloop := header_loop.spec hread.le hc hcommit
    rw [within_reading hread, AudioFrame.anchorAt, if_pos hread, fill_frame_header rfl rfl hloop]
    by_cases hshort : q + remaining.length < f.header.parsed_header_len
    · have hall : c = remaining.length := by omega
      subst hall
      rw [if_pos hshort, within_reading hshort, AudioFrame.anchorAt, if_pos hshort,
        drop_length, if_pos (by omega)]
    · have hnext := hc.drop (f.header.parsed_header_len - q)
      rw [Nat.add_sub_cancel' hread.le] at hnext
      have hbody := fill_body.spec { a with anchor := some behind } start le_rfl hheader
        hnext outputs rfl
      have hsum : f.header.parsed_header_len + min (f.bytes.length - f.header.parsed_header_len)
          (remaining.drop (f.header.parsed_header_len - q)).length = q + c := by
        rw [length_drop]
        omega
      have hdrop : f.header.parsed_header_len - q + min
          (f.bytes.length - f.header.parsed_header_len)
          (remaining.drop (f.header.parsed_header_len - q)).length = c := by omega
      rw [hsum, drop_drop, hdrop] at hbody
      rw [if_neg hshort, AudioFrame.anchorAt, if_neg (by omega)]
      exact hbody
  · have hbody := fill_body.spec { a with anchor := some behind } start (not_lt.mp hread)
      hq.le hc outputs hmin
    rw [within_filling (not_lt.mp hread) hq, AudioFrame.anchorAt, if_neg hread,
      AudioFrame.anchorAt, if_neg (by omega)]
    exact hbody

end AudioTimestampAssociation

/-! ## The loop over a chunk ends -/

/-- A whole header takes no more bytes, and does not ask for them. -/
theorem HeaderVars.complete_takes_none (v : HeaderVars) (header : AudioFrameHeader) :
    (v.complete header).remaining = v.remaining ∧ (v.complete header).exit ≠ some (.ok false) := by
  unfold HeaderVars.complete
  split
  · exact ⟨rfl, nofun⟩
  split <;> exact ⟨rfl, nofun⟩

/-- The last turn of the header loop takes a byte, unless the header was whole. -/
theorem HeaderVars.turn_done {v w : HeaderVars} {complete : Bool} (h : v.turn = .done w)
    (hexit : w.exit = some (.ok complete)) :
    w.remaining.length ≤ v.remaining.length ∧
      (complete = false ∨ v.frame.bytes = [] → v.remaining ≠ [] →
        w.remaining.length < v.remaining.length) := by
  unfold turn at h
  split at h
  · split at h
    · cases h
      cases hexit
    dsimp only at h
    split at h
    · cases h
      simp only [consume, length_drop]
      refine ⟨Nat.sub_le _ _, fun _ hne => ?_⟩
      have hpos := length_pos_iff.mpr hne
      omega
    · cases h
  · rename_i header hparse
    cases h
    obtain ⟨hremaining, htrue⟩ := complete_takes_none v header
    rw [hremaining]
    refine ⟨le_rfl, ?_⟩
    rintro (hfalse | hnil)
    · exact absurd hexit (hfalse ▸ htrue)
    · rw [hnil] at hparse
      cases hparse
  · cases h
    cases hexit

/-- The header loop takes a byte, unless it had a whole header to begin with. -/
theorem header_loop_takes (v : HeaderVars) {complete : Bool}
    (hexit : (loop turn size v).exit = some (.ok complete)) :
    (loop turn size v).remaining.length ≤ v.remaining.length ∧
      (complete = false ∨ v.frame.bytes = [] → v.remaining ≠ [] →
        (loop turn size v).remaining.length < v.remaining.length) := by
  refine loop_rel turn_lowers (fun v w => w.exit = some (.ok complete) →
    w.remaining.length ≤ v.remaining.length ∧ (complete = false ∨ v.frame.bytes = [] →
      v.remaining ≠ [] → w.remaining.length < v.remaining.length)) ?_ ?_ v hexit
  · intro v w hturn hexit
    exact turn_done hturn hexit
  · intro v w x hturn ih hexit
    obtain ⟨_, hlt, _⟩ := HeaderVars.turn_yield hturn
    have hle := (ih hexit).1
    exact ⟨by omega, fun _ _ => by omega⟩

namespace AudioTimestampAssociation

variable {a b : AudioTimestampAssociation} {rest : List UInt8} {outputs more : List AudioMediaFrame}

/-- The body takes a byte, unless the frame was whole. -/
theorem fill_body_takes {frame : AudioFrameInProgress}
    (h : a.fill_body frame remaining outputs = .ok (b, rest, more)) :
    rest.length ≤ remaining.length ∧
      (b.assembly ≠ .Boundary → remaining ≠ [] → rest.length < remaining.length) := by
  unfold fill_body at h
  split at h
  · cases h
  split at h
  · cases h
  rename_i expected_len _ _ missing hmissing
  have hsub : frame.bytes.length + missing = expected_len := by
    unfold checked_sub at hmissing
    split at hmissing
    · cases hmissing
      omega
    · cases hmissing
  dsimp only at h
  split at h
  · rename_i hshort
    cases h
    rw [length_append] at hshort
    rw [length_drop]
    refine ⟨Nat.sub_le _ _, fun _ hne => ?_⟩
    have hpos := length_pos_iff.mpr hne
    omega
  · cases h
    rw [length_drop]
    exact ⟨Nat.sub_le _ _, fun hframe => absurd rfl hframe⟩

/-- `fill_frame` takes a byte, or it ends a frame that had one. -/
theorem fill_frame_takes {frame : AudioFrameInProgress} (hassembly : a.assembly = .Frame frame)
    (hne : remaining ≠ []) (h : a.fill_frame remaining outputs = .ok (b, rest, more)) :
    rest.length ≤ remaining.length ∧
      (b.assembly ≠ .Boundary ∨ frame.bytes = [] ∧ frame.expected_len = none →
        rest.length < remaining.length) := by
  cases hexpected : frame.expected_len with
  | some expected_len =>
    simp only [fill_frame, hassembly, hexpected] at h
    obtain ⟨hle, hlt⟩ := fill_body_takes h
    refine ⟨hle, ?_⟩
    rintro (hframe | ⟨_, hnone⟩)
    · exact hlt hframe hne
    · cases hnone
  | none =>
    rw [fill_frame_header hassembly hexpected rfl] at h
    have htakes := @header_loop_takes ⟨a.anchor, frame, remaining, none⟩
    split at h
    · rename_i hexit
      obtain ⟨hheader, hfresh⟩ := htakes hexit
      obtain ⟨hle, hlt⟩ := fill_body_takes h
      refine ⟨hle.trans hheader, ?_⟩
      rintro (hframe | ⟨hnil, _⟩)
      · by_cases hall : (loop turn size
          ⟨a.anchor, frame, remaining, none⟩).remaining = []
        · rw [hall] at hle
          have hpos := length_pos_iff.mpr hne
          exact hle.trans_lt hpos
        · exact Nat.lt_of_lt_of_le (hlt hframe hall) hheader
      · exact hle.trans_lt (hfresh (.inr hnil) hne)
    · rename_i hexit
      obtain ⟨hheader, hfresh⟩ := htakes hexit
      cases h
      exact ⟨hheader, fun _ => hfresh (.inl rfl) hne⟩
    · cases h
    · cases h

/-- At a boundary an empty frame begins. -/
theorem ChunkVars.begin_frame_begins {chunk : AudioPesChunk} {v w : ChunkVars}
    (h : v.begin_frame chunk = .ok w) : w.remaining = v.remaining ∧ w.outputs = v.outputs ∧
      ∃ frame, w.association.assembly = .Frame frame ∧
        (v.association.assembly = .Boundary → frame.bytes = [] ∧ frame.expected_len = none) := by
  unfold ChunkVars.begin_frame at h
  split at h
  · rename_i frame hframe
    cases h
    exact ⟨rfl, rfl, frame, hframe, fun hboundary => by rw [hframe] at hboundary; cases hboundary⟩
  split at h
  · cases h
    exact ⟨rfl, rfl, _, rfl, fun _ => ⟨rfl, rfl⟩⟩
  split at h
  · cases h
  · cases h
    exact ⟨rfl, rfl, _, rfl, fun _ => ⟨rfl, rfl⟩⟩

theorem ChunkVars.turn_lowers (chunk : AudioPesChunk) :
    Lowers (ChunkVars.turn chunk) ChunkVars.size := by
  intro v w h
  unfold ChunkVars.turn at h
  split at h
  · cases h
  rename_i hne
  split at h
  · cases h
  rename_i begun hbegin
  obtain ⟨hremaining, _, frame, hframe, hfresh⟩ := begin_frame_begins hbegin
  rw [← hremaining] at hne
  split at h
  · cases h
  rename_i hfill
  obtain ⟨hle, hlt⟩ := fill_frame_takes hframe hne hfill
  cases h
  simp only [ChunkVars.size]
  rw [hremaining] at hle hlt
  by_cases hboundary : v.association.assembly = .Boundary
  · have hless := hlt (.inr (hfresh hboundary))
    split <;> omega
  split
  · omega
  rename_i hend
  have hless := hlt (.inl hend)
  omega

end AudioTimestampAssociation

end tuner_hal2_demux.av
