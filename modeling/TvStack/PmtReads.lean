-- What the PMT and the CAT are read for, with checked accesses: the codec facts and
-- the descriptors of the elementary streams, conditional access, and the check for
-- descriptor loops that are cut.
import TvStack.DescriptorReads

open Checked Cursors Items Words List

namespace arib_si_engine_rs.codec_signaling.checked

open arib_si_engine_rs.sections (index_eq_byte index_bind ok_bind)

variable (bits : AudioConfigBits)

/-- `self.bytes.get(self.offset / 8)? >> (7 - self.offset % 8)`: the only access of the readers of
an audio config. -/
def read_bit : Run (Option (Nat × AudioConfigBits)) :=
  match bits.bytes[bits.offset / 8]? with
  | none => pure none
  | some b => do
    let shift ← sub 7 (bits.offset % 8)
    return some (b.toNat / 2 ^ shift % 2, { bits with offset := bits.offset + 1 })

theorem read_bit.spec : read_bit bits = .ok (codec_signaling.read_bit bits) := by
  have hshift : sub 7 (bits.offset % 8) = .ok (7 - bits.offset % 8) := if_pos (by omega)
  unfold read_bit codec_signaling.read_bit
  cases bits.bytes[bits.offset / 8]? with
  | none => rfl
  | some b =>
    rw [hshift]
    rfl

variable (facts : CodecDescriptorFacts) (body : List UInt8)

def observe_avc : Run CodecDescriptorFacts := do
  if body.length = 4 then
    if ((← index body 1) &&& 3) = 0 then
      if ((← index body 3) &&& 0x1f) = 0x1f then
        let (avc, valid) := install facts.avc ⟨← index body 0, ← index body 1, ← index body 2⟩
        return { facts with avc, malformed := facts.malformed || !valid }
  return { facts with malformed := true }

def observe_profile_and_level : Run CodecDescriptorFacts := do
  if body.length = 1 then
    let (mpeg4_audio_profile_and_level, valid) :=
      install facts.mpeg4_audio_profile_and_level (← index body 0)
    return { facts with mpeg4_audio_profile_and_level, malformed := facts.malformed || !valid }
  return { facts with malformed := true }

/-- The arms of `observe`, each with its accesses behind the length of the body. The audio extension
takes its bytes with `get`. -/
def observe (facts : CodecDescriptorFacts) (tag : UInt8) (body : List UInt8) :
    Run CodecDescriptorFacts :=
  let noted := { facts with
    raw_descriptors_hex :=
      facts.raw_descriptors_hex ++ hex [tag, UInt8.ofNat body.length] ++ hex body }
  if tag = 0x28 then observe_avc noted body
  else if tag = 0x1c then observe_profile_and_level noted body
  else pure (facts.observe tag body)

theorem observe.spec (tag : UInt8) (body : List UInt8) :
    observe facts tag body = .ok (facts.observe tag body) := by
  unfold observe
  split
  · rename_i htag
    subst htag
    unfold observe_avc CodecDescriptorFacts.observe
    by_cases hlen : body.length = 4
    · have hread (i : Nat) (hi : i < 4) : index body i = .ok (byte body i) :=
        index_eq_byte (by omega)
      rw [if_pos hlen, hread 1 (by decide), ok_bind]
      by_cases hflags : (byte body 1 &&& 3) = 0
      · rw [hread 3 (by decide), ok_bind]
        by_cases hlast : (byte body 3 &&& 0x1f) = 0x1f
        · rw [hread 0 (by decide), hread 2 (by decide)]
          simp [hlen, hflags, hlast, pure, Except.pure, bind, Except.bind]
        · simp [hlast]
          rfl
      · simp [hflags]
        rfl
    · simp [hlen]
      rfl
  split
  · rename_i htag
    subst htag
    unfold observe_profile_and_level CodecDescriptorFacts.observe
    by_cases hlen : body.length = 1
    · rw [index_eq_byte (by omega)]
      simp [hlen, pure, Except.pure, bind, Except.bind]
    · simp [hlen]
      rfl
  · rfl

end arib_si_engine_rs.codec_signaling.checked

namespace arib_si_engine_rs.ca_descriptor.checked

open arib_si_engine_rs.sections

/-- The loop of `parse_ca_descriptors_with_diagnostics`, with its cursor and what it has pushed. -/
def parse_ca_descriptors_with_diagnostics (bytes : List UInt8)
    (context : CaDescriptorParseContext) : Run CaDescriptorParseResult :=
  (descriptor_walk bytes
    (fun (s : Nat × CaDescriptorParseResult) tag start stop =>
      let (cursor, result) := s
      if tag ≠ 0x09 then return .inl (stop, result)
      else if 4 ≤ stop - start then do
        let descriptor : CaDescriptor :=
          { ca_system_id := be16 (← index bytes start) (← index bytes (start + 1))
            ca_pid := be13 (← index bytes (start + 2)) (← index bytes (start + 3))
            private_data := ← range bytes (start + 4) stop
            raw_descriptor := ← range bytes cursor stop }
        return .inl (stop, { result with descriptors := result.descriptors ++ [descriptor] })
      else do
        let diagnostic := malformed_diagnostic context cursor (stop - start)
          (bytes.length - start) .SHORT_CA_DESCRIPTOR (← range bytes cursor stop)
        return .inl (stop, { result with diagnostics := result.diagnostics ++ [diagnostic] }))
    (fun s tag cursor =>
      if tag = 0x09 then do
        let diagnostic := malformed_diagnostic context cursor (← index bytes (cursor + 1)).toNat
          (bytes.length - (cursor + 2)) .TRUNCATED_CA_DESCRIPTOR (← range bytes cursor bytes.length)
        return { s.2 with diagnostics := s.2.diagnostics ++ [diagnostic] }
      else return s.2)
    (fun s _ => s.2)).run bytes.length 0 (0, ⟨[], []⟩)

/-- The bytes of a whole descriptor are its tag, its length and its body. -/
theorem slice_eq_raw {bytes : List UInt8} {c stop : Nat}
    (hstop : stop = c + 2 + (byte bytes (c + 1)).toNat) (hle : stop ≤ bytes.length) :
    slice bytes c stop = raw_descriptor (byte bytes c) (slice bytes (c + 2) stop) := by
  have hcons (i : Nat) (hi : i < stop) :
      slice bytes i stop = byte bytes i :: slice bytes (i + 1) stop := by
    have hlt : i < (bytes.take stop).length := by
      rw [length_take]
      omega
    rw [slice, slice, drop_eq_getElem_cons hlt, getElem_take, byte,
      getD_eq_getElem _ _ (by omega)]
  have hlength : (slice bytes (c + 2) stop).length = (byte bytes (c + 1)).toNat := by
    rw [length_slice hle]
    omega
  rw [hcons c (by omega), hcons (c + 1) (by omega), raw_descriptor, hlength, UInt8.ofNat_toNat]

theorem parse_ca_descriptors_with_diagnostics.spec (bytes : List UInt8)
    (context : CaDescriptorParseContext) :
    parse_ca_descriptors_with_diagnostics bytes context =
      .ok (ca_descriptor.parse_ca_descriptors_with_diagnostics bytes context) := by
  let empty : Nat × CaDescriptorParseResult := (0, ⟨[], []⟩)
  unfold parse_ca_descriptors_with_diagnostics ca_descriptor.parse_ca_descriptors_with_diagnostics
  rw [descriptor_walk.spec_of (fun s item => .inl (ca_step context bytes.length s item))
    (fun s rest => { s.2 with
      diagnostics := s.2.diagnostics ++ truncated_ca_diagnostic context bytes.length rest })
    (fun s c => s.1 = c) (Nat.le_refl _) (fun s c stop hs hstop hle => ?_)
    (fun s c stop hs hstop hle next hnext => ?_) (fun s c hs hc hcut => ?_) (fun s c hs hc => ?_)
    (show empty.1 = 0 from rfl), slice_all, follow_inl]
  · obtain ⟨cursor, result⟩ := s
    cases hs
    have hlength : (slice bytes (cursor + 2) stop).length = stop - (cursor + 2) := length_slice hle
    have hnext : cursor + 2 + (stop - (cursor + 2)) = stop := by omega
    simp only [ca_step, hlength, hnext]
    split
    · rfl
    split
    · have hprivate : slice bytes (cursor + 2 + 4) stop = (slice bytes (cursor + 2) stop).drop 4 :=
        drop_window.symm
      rw [slice_bind_zero (by omega) hle, slice_bind (by omega) hle, slice_bind (by omega) hle,
        slice_bind (by omega) hle, range_bind (by omega), range_bind (by omega), hprivate,
        slice_eq_raw hstop hle]
      rfl
    · rw [range_bind (by omega), slice_eq_raw hstop hle]
      rfl
  · cases hnext
    have hlength : (slice bytes (c + 2) stop).length = stop - (c + 2) := length_slice hle
    have hnext : c + 2 + (stop - (c + 2)) = stop := by omega
    simp only [ca_step, hs, hlength, hnext]
    split_ifs <;> rfl
  · have hlength : (slice bytes c bytes.length).length = bytes.length - c :=
      length_slice (Nat.le_refl _)
    have htag : byte (slice bytes c bytes.length) 0 = byte bytes (c + 0) := byte_slice (by omega)
    have hlen : byte (slice bytes c bytes.length) 1 = byte bytes (c + 1) := byte_slice (by omega)
    have hoffset : bytes.length - (bytes.length - c) = c := by omega
    simp only [truncated_ca_diagnostic, hlength, htag, hlen, hoffset]
    split
    · rename_i hca
      rw [if_pos ⟨by omega, hca⟩, index_bind (by omega), range_eq_slice (by omega)]
      rfl
    · rename_i hother
      rw [if_neg (fun h => hother h.2), append_nil]
      rfl
  · have hshort : ¬ 2 ≤ (slice bytes c bytes.length).length := by
      rw [length_slice (Nat.le_refl _)]
      omega
    rw [truncated_ca_diagnostic, if_neg (fun h => hshort h.1), append_nil]

end arib_si_engine_rs.ca_descriptor.checked

namespace arib_si_engine_rs.service_discovery.checked

open arib_si_engine_rs.sections

variable (codes : List String) (body : List UInt8)

/-- `while lc + 4 <= body.len()`, over the languages of an ISO 639 descriptor. -/
def push_iso_639_languages : Run (List String) :=
  (fixed_walk 4 fun codes lc => do
    return push_language codes (← range body lc (lc + 3))).run body.length 0 codes

theorem push_iso_639_languages.spec :
    push_iso_639_languages codes body =
      .ok ((iso_639_languages body).foldl push_language codes) := by
  unfold push_iso_639_languages iso_639_languages
  rw [fixed_walk_run (fun entry _ => entry.take 3) push_language (by decide)
    (Nat.le_refl _) (fun codes c hc => ?_)]
  · have hall : window body 0 body.length = body := slice_all body
    rw [hall]
  · have hcode : (window body c (c + 4)).take 3 = slice body c (c + 3) := take_window (by omega)
    rw [range_eq_slice (by omega), hcode]
    rfl

variable (stream : DiscoveredElementaryStream) (body : List UInt8) (bytes : List UInt8)

/-- The fields that a video and an audio component descriptor have in common. -/
def apply_component : Run DiscoveredElementaryStream := do
  return { stream with
    stream_content := some ((← index body 0) &&& 0x0f)
    component_type := some (← index body 1)
    component_tag := some (← index body 2) }

def push_language_at (start : Nat) : Run DiscoveredElementaryStream := do
  return { stream with
    language_codes := push_language stream.language_codes (← range body start (start + 3)) }

def apply_audio_component : Run DiscoveredElementaryStream := do
  let stream ← apply_component stream body
  let stream ← push_language_at stream body 6
  if 12 ≤ body.length then
    if ((← index body 5) &&& 0x80) ≠ 0 then push_language_at stream body 9 else return stream
  else return stream

def apply_es_descriptor (tag : UInt8) (body : List UInt8) : Run DiscoveredElementaryStream := do
  let codec_facts ← codec_signaling.checked.observe stream.codec_facts tag body
  let stream := { stream with codec_facts }
  if tag = 0x52 ∧ body ≠ [] then return { stream with component_tag := some (← index body 0) }
  else if tag = 0x50 ∧ 5 ≤ body.length then
    let stream ← apply_component stream body
    if 6 ≤ body.length then push_language_at stream body 3 else return stream
  else if tag = 0xc4 ∧ 9 ≤ body.length then apply_audio_component stream body
  else if tag = 0x0a then
    return { stream with
      language_codes := ← push_iso_639_languages stream.language_codes body }
  else if tag = 0xfd ∧ 2 ≤ body.length then
    let data_component_id := be16 (← index body 0) (← index body 1)
    let stream := { stream with data_component_id := some data_component_id }
    if data_component_id = 0x0008 then return apply_arib_caption_data_component_info stream body
    else if data_component_id = 0x0012 then return { stream with is_caption := true }
    else return stream
  else return stream

section

variable (stream : DiscoveredElementaryStream)

theorem apply_component.spec {body : List UInt8} (h : 3 ≤ body.length) :
    apply_component stream body = .ok { stream with
      stream_content := some (byte body 0 &&& 0x0f)
      component_type := some (byte body 1)
      component_tag := some (byte body 2) } := by
  unfold apply_component
  simp (disch := omega) only [index_eq_byte]
  rfl

theorem push_language_at.spec {body : List UInt8} {start : Nat} (h : start + 3 ≤ body.length) :
    push_language_at stream body start = .ok { stream with
      language_codes := push_language stream.language_codes (slice body start (start + 3)) } := by
  unfold push_language_at
  rw [range_eq_slice (by omega)]
  rfl

theorem apply_es_descriptor.spec (tag : UInt8) (body : List UInt8) :
    apply_es_descriptor stream tag body =
      .ok (service_discovery.apply_es_descriptor stream tag body) := by
  unfold apply_es_descriptor service_discovery.apply_es_descriptor
  rw [codec_signaling.checked.observe.spec, ok_bind]
  dsimp only
  split
  · rename_i htag
    rw [index_eq_byte (length_pos_of_ne_nil htag.2)]
    rfl
  split
  · rw [apply_component.spec _ (by omega), ok_bind]
    split
    · rw [push_language_at.spec _ (by omega)]
    · rfl
  split
  · unfold apply_audio_component
    rw [apply_component.spec _ (by omega), ok_bind, push_language_at.spec _ (by omega), ok_bind,
      index_bind (by omega), ite_and]
    split
    · split
      · rw [push_language_at.spec _ (by omega)]
      · rfl
    · rfl
  split
  · rw [push_iso_639_languages.spec]
    rfl
  split
  · simp (disch := omega) only [index_bind]
    split_ifs <;> rfl
  · rfl

end

def apply_es_descriptors : Run DiscoveredElementaryStream := do
  let stream ← (descriptor_walk bytes
    (fun stream tag start stop => do
      return .inl (← apply_es_descriptor stream tag (← range bytes start stop)))
    (fun stream _ _ => pure stream) (fun stream _ => stream)).run bytes.length 0 stream
  return { stream with language_codes := stream.language_codes.eraseDups }

theorem apply_es_descriptors.spec :
    apply_es_descriptors stream bytes =
      .ok (service_discovery.apply_es_descriptors stream bytes) := by
  unfold apply_es_descriptors service_discovery.apply_es_descriptors
  rw [descriptor_walk.spec
    (fun stream item => .inl (service_discovery.apply_es_descriptor stream item.1 item.2))
    (fun stream _ => stream) (Nat.le_refl _) (fun stream tag start stop hle hstop => ?_)
    (fun _ _ _ => rfl) (fun _ _ _ => rfl), slice_all, follow_inl]
  · rfl
  · rw [range_bind ⟨hle, hstop⟩, apply_es_descriptor.spec]
    rfl

end arib_si_engine_rs.service_discovery.checked

namespace arib_si_engine_rs.sections.checked

variable (bytes : List UInt8)

/-- The source does not read the tag here. -/
def descriptor_loop_well_formed : Run Bool :=
  (descriptor_walk bytes (fun _ _ _ _ => return .inl ()) (fun _ _ _ => return false)
    (fun _ cursor => decide (bytes.length ≤ cursor))).run bytes.length 0 ()

theorem isEmpty_slice {bytes : List UInt8} {c limit : Nat} (hlimit : limit ≤ bytes.length) :
    (slice bytes c limit).isEmpty = decide (limit ≤ c) := by
  rw [Bool.eq_iff_iff, List.isEmpty_iff, ← List.length_eq_zero_iff, length_slice hlimit,
    Nat.sub_eq_zero_iff_le, decide_eq_true_eq]

/-- A disjunct is a guard that gives `true`. -/
theorem ok_or (p : Prop) [Decidable p] (b : Bool) :
    (Except.ok (decide p || b) : Run Bool) = if p then .ok true else .ok b := by
  by_cases h : p <;> simp [h]

theorem follow_unit {β ρ : Type} (done : Unit → ρ) (items : List β) :
    follow (fun _ _ => .inl ()) done () items = done () :=
  follow_inl (fun _ _ => ()) done () items

theorem descriptor_loop_well_formed.spec :
    descriptor_loop_well_formed bytes = .ok (sections.descriptor_loop_well_formed bytes) := by
  unfold descriptor_loop_well_formed sections.descriptor_loop_well_formed
  rw [descriptor_walk.spec (fun _ _ => .inl ()) (fun _ rest => rest.isEmpty) (Nat.le_refl _)
    (fun _ _ _ _ _ _ => ?_) (fun _ c hc => ?_) (fun _ c hc => ?_), slice_all, follow_unit]
  · rfl
  · rw [isEmpty_slice (Nat.le_refl _), decide_eq_false (by omega)]
    rfl
  · rw [isEmpty_slice (Nat.le_refl _)]

/-- `while cursor < limit`, over items with a descriptor loop each. -/
def items_malformed (size len_at limit start : Nat) : Run Bool :=
  (entry_walk bytes size len_at
    (fun _ cursor stop => do
      let well_formed ← descriptor_loop_well_formed (← range bytes (cursor + size) stop)
      return if well_formed then .inl () else .inr true)
    (fun _ => true) (fun _ cursor => decide (cursor < limit))).run limit start ()

theorem follow_any {β : Type} (good : β → Bool) (last : Bool) (items : List β) :
    follow (fun _ b => if good b then .inl () else .inr true) (fun _ => last) () items =
      (last || items.any fun b => !good b) := by
  induction items with
  | nil => simp [follow]
  | cons b items ih =>
    cases hgood : good b with
    | true => simp [follow, hgood, ih]
    | false => simp [follow, hgood]

theorem items_malformed.spec {bytes : List UInt8} {size len_at limit : Nat} (start : Nat)
    (hsize : len_at + 2 ≤ size) (hlimit : limit ≤ bytes.length) :
    items_malformed bytes size len_at limit start =
      .ok (sections.items_malformed size len_at (slice bytes start limit)) := by
  unfold items_malformed sections.items_malformed
  rw [entry_walk.spec (fun _ descriptors => descriptors)
    (fun _ descriptors =>
      if sections.descriptor_loop_well_formed descriptors then .inl () else .inr true)
    (fun _ rest => !rest.isEmpty) hsize hlimit (fun _ c stop hle hstop => ?_) (fun _ c hc => ?_)
    (fun _ c hc => ?_), follow_any]
  · rw [range_bind (by omega), descriptor_loop_well_formed.spec]
    rfl
  · rw [isEmpty_slice hlimit, decide_eq_false (by omega)]
    rfl
  · simp only [isEmpty_slice hlimit, ← decide_not, Nat.not_le]

def section_body_end : Run (Option Nat) := do
  match ← read_section_header bytes with
  | none => return none
  | some header =>
    if header.section_length < 4 ∨ bytes.length < header.total_length then return none
    else return some (← sub (3 + header.section_length) 4)

theorem section_body_end.spec : section_body_end bytes = .ok (sections.section_body_end bytes) := by
  unfold section_body_end sections.section_body_end
  rw [read_section_header.spec, ok_bind]
  cases parse_section_header bytes with
  | none => rfl
  | some header =>
    dsimp only
    split
    · rfl
    have hsub : sub (3 + header.section_length) 4 = .ok (3 + header.section_length - 4) :=
      if_pos (by omega)
    rw [hsub]
    rfl

theorem section_body_end_le {bytes : List UInt8} {body_end : Nat}
    (h : sections.section_body_end bytes = some body_end) : body_end ≤ bytes.length := by
  unfold sections.section_body_end at h
  split at h
  · contradiction
  rename_i header hheader
  obtain ⟨htotal, hle, -⟩ := total_length_le hheader
  split at h
  · contradiction
  · cases h
    omega

variable (body_end : Nat)

def pmt_malformed : Run Bool := do
  if bytes.length < 12 ∨ body_end < 12 ∨ bytes.length < body_end then return true
  else
    let program_info_end := 12 + be12 (← index bytes 10) (← index bytes 11)
    if body_end < program_info_end then return true
    else
      let well_formed ← descriptor_loop_well_formed (← range bytes 12 program_info_end)
      if well_formed then items_malformed bytes 5 3 body_end program_info_end else return true

theorem pmt_malformed.spec :
    pmt_malformed bytes body_end = .ok (sections.pmt_malformed bytes body_end) := by
  unfold pmt_malformed sections.pmt_malformed
  simp only [ite_or, Bool.or_assoc, ok_or]
  iterate 3
    split
    · rfl
  simp (disch := omega) only [index_bind]
  split
  · rfl
  rw [range_bind (by omega), descriptor_loop_well_formed.spec, ok_bind,
    items_malformed.spec _ (by decide) (by omega)]
  split_ifs with hformed
  · rw [hformed]
    rfl
  · rw [Bool.not_eq_true _ |>.mp hformed]
    rfl

/-- A NIT or a BAT. -/
def transport_loop_malformed : Run Bool := do
  if bytes.length < 10 ∨ body_end < 10 then return true
  else
    let desc_end := 10 + be12 (← index bytes 8) (← index bytes 9)
    if body_end < desc_end then return true
    else
      let well_formed ← descriptor_loop_well_formed (← range bytes 10 desc_end)
      if well_formed = false ∨ body_end < desc_end + 2 then return true
      else
        let transport_end := desc_end + 2 +
          be12 (← index bytes desc_end) (← index bytes (desc_end + 1))
        if body_end < transport_end then return true
        else items_malformed bytes 6 4 transport_end (desc_end + 2)

theorem transport_loop_malformed.spec {bytes : List UInt8} {body_end : Nat}
    (hbody : body_end ≤ bytes.length) :
    transport_loop_malformed bytes body_end =
      .ok (sections.transport_loop_malformed bytes body_end) := by
  unfold transport_loop_malformed sections.transport_loop_malformed
  simp only [ite_or, Bool.or_assoc, ok_or]
  iterate 2
    split
    · rfl
  rw [index_bind (by omega), index_bind (by omega)]
  split
  · rfl
  rw [range_bind (by omega), descriptor_loop_well_formed.spec, ok_bind]
  split
  · rename_i hformed
    rw [hformed]
    rfl
  rename_i hformed
  rw [Bool.not_eq_false _ |>.mp hformed, Bool.not_true, Bool.false_or, ok_or]
  split
  · rfl
  simp (disch := omega) only [index_bind, ok_or]
  split
  · rfl
  exact items_malformed.spec _ (by decide) (by omega)

def section_has_malformed_descriptor_loop (pid : Nat) (table_id : UInt8) (bytes : List UInt8)
    (known_pmt_pid : Bool) : Run Bool := do
  match ← section_body_end bytes with
  | none => return true
  | some body_end =>
    if pid = 0x0001 ∧ table_id = 0x01 then
      if bytes.length < 8 ∨ body_end < 8 then return true
      else return !(← descriptor_loop_well_formed (← range bytes 8 body_end))
    else if table_id = 0x02 ∧ known_pmt_pid then pmt_malformed bytes body_end
    else if pid = 0x0010 ∧ (table_id = 0x40 ∨ table_id = 0x41) then
      transport_loop_malformed bytes body_end
    else if pid = 0x0011 ∧ (table_id = 0x42 ∨ table_id = 0x46) then
      if bytes.length < 11 ∨ body_end < 11 then return true
      else items_malformed bytes 5 3 body_end 11
    else if pid = 0x0011 ∧ table_id = 0x4a then transport_loop_malformed bytes body_end
    else return false

theorem section_has_malformed_descriptor_loop.spec (pid : Nat) (table_id : UInt8)
    (bytes : List UInt8) (known_pmt_pid : Bool) :
    section_has_malformed_descriptor_loop pid table_id bytes known_pmt_pid =
      .ok (sections.section_has_malformed_descriptor_loop pid table_id bytes known_pmt_pid) := by
  unfold section_has_malformed_descriptor_loop sections.section_has_malformed_descriptor_loop
  rw [section_body_end.spec, ok_bind]
  cases hend : sections.section_body_end bytes with
  | none => rfl
  | some body_end =>
    have hbody := section_body_end_le hend
    simp only [ite_or, Bool.or_assoc]
    split
    · simp only [ok_or]
      iterate 2
        split
        · rfl
      rw [range_bind (by omega), descriptor_loop_well_formed.spec]
      rfl
    split
    · exact pmt_malformed.spec bytes body_end
    split
    · exact transport_loop_malformed.spec hbody
    split
    · simp only [ok_or]
      iterate 2
        split
        · rfl
      exact items_malformed.spec 11 (by decide) hbody
    split
    · exact transport_loop_malformed.spec hbody
    · rfl

end arib_si_engine_rs.sections.checked
