-- The parsers of the event descriptors on any bytes: every index and every slice is
-- inside of its bytes, every loop ends, and so each parser returns.
import Mathlib.Data.List.Dedup
import TvStack.EventDescriptors

open Checked Words List

namespace arib_si_engine_rs.descriptors

open arib_si_engine_rs.arib_string

variable (tables : GraphicTables) (out : EventDescriptors) (d : RawDescriptor)

theorem u16_at.spec {bytes : List UInt8} {offset : Nat}
    (h : offset + 2 ≤ bytes.length) : Ends (u16_at bytes offset) := by
  refine index_then (by omega) fun _ => ?_
  exact index_then (by omega) fun _ => .pure

variable (bytes : List UInt8) (body : List UInt8)

theorem decode_descriptor_text_lossy.spec (field_kind : String) (field_offset : Nat) :
    Ends (decode_descriptor_text_lossy tables bytes out d field_kind field_offset) := by
  refine (decode_arib_string_lossy.spec bytes tables).bind fun decoded _ => ?_
  exact .unless fun _ => .pure

/-! ## Short events -/

theorem read_short_event.spec {name_end text_end : Nat} (hname : 4 ≤ name_end)
    (htext : name_end + 1 ≤ text_end) (hlen : text_end ≤ d.body.length) :
    Ends (read_short_event tables out d name_end text_end) := by
  refine range_then (by omega) fun language_bytes => ?_
  refine .unless fun _ => ?_
  refine .unless fun _ => ?_
  refine range_then (by omega) fun name => ?_
  refine (decode_descriptor_text_lossy.spec ..).bind fun title _ => ?_
  refine range_then (by omega) fun text => ?_
  refine (decode_descriptor_text_lossy.spec ..).bind fun text _ => ?_
  exact .pure

theorem of_checked_add {a b c : Nat} (h : checked_add USIZE_MAX a b = some c) : c = a + b := by
  unfold checked_add at h
  split at h
  · exact (Option.some.inj h).symm
  · contradiction

theorem parse_short_event.spec : Ends (parse_short_event tables out d) := by
  refine .unless fun hlen => ?_
  refine index_then (by omega) fun name_len => ?_
  split
  · rename_i name_end hname
    have hname := of_checked_add hname
    refine .unless fun hinside => ?_
    refine .unless fun hbehind => ?_
    refine index_then (by omega) fun text_len => ?_
    split
    · refine .unless fun hend => ?_
      exact read_short_event.spec tables out d (by omega) (by omega) (by omega)
    · exact .pure
  · exact .pure

/-! ## Extended events -/

theorem extended_item_turn.spec {items_end : Nat} (hend : items_end ≤ d.body.length)
    (s : Nat × List ExtendedEventItemFragment) :
    Returns (extended_item_turn d items_end s)
      (Lowers (fun _ => True) (fun s => d.body.length - s.1) (fun _ => True) s) := by
  refine .leave trivial fun hinside => ?_
  refine .leave trivial fun _ => ?_
  refine index_then (by omega) fun desc_len => ?_
  split
  · rename_i desc_end hdesc
    have hdesc := of_checked_add hdesc
    refine .leave trivial fun hdesc_end => ?_
    refine index_then (by omega) fun item_len => ?_
    split
    · rename_i item_end hitem
      have hitem := of_checked_add hitem
      refine .leave trivial fun hitem_end => ?_
      iterate 2 refine range_then (by omega) fun _ => ?_
      exact .ok ⟨trivial, by beta_reduce; omega⟩
    · exact .ok trivial
  · exact .ok trivial

theorem extended_event_text.spec {items_end : Nat} (items : List ExtendedEventItemFragment)
    (hlen : 6 ≤ d.body.length) (hend : items_end < d.body.length) :
    Ends (extended_event_text out d items_end items) := by
  refine index_then hend fun text_len => ?_
  split
  · refine .unless fun hmatches => ?_
    refine index_then (by omega) fun numbers => ?_
    iterate 2 refine range_then (by omega) fun _ => ?_
    exact .pure
  · exact .pure

theorem parse_extended_event_fragment.spec : Ends (parse_extended_event_fragment out d) := by
  refine .unless fun hlen => ?_
  refine range_then (by omega) fun language_bytes => ?_
  refine .unless fun _ => ?_
  refine index_then (by omega) fun items_len => ?_
  split
  · rename_i items_end hitems
    refine .unless fun hend => ?_
    have hinside : items_end ≤ d.body.length := by omega
    have hloop : Ends (loop (extended_item_turn d items_end) (d.body.length + 1) (5, [])) :=
      loop_returns (fun _ => True) (fun s => d.body.length - s.1)
        (fun s _ => extended_item_turn.spec d hinside s) trivial (by omega)
    refine hloop.bind fun items _ => ?_
    split
    · exact .pure
    · exact .pure
    · exact extended_event_text.spec out d _ (by omega) (by omega)
  · exact .pure

theorem decode_extended_event_field.spec (decoder : InvocationState) (bytes : List UInt8)
    (fragment : ExtendedEventFragment) (field_kind : String) (field_offset : Nat) :
    Ends (decode_extended_event_field tables decoder bytes fragment field_kind field_offset
      out) := by
  refine (decode.spec bytes tables decoder).bind fun decoded _ => ?_
  split
  · exact .pure
  · exact (lossy_diagnostic.spec bytes tables _).then_pure

section

variable (fragment : ExtendedEventFragment)

theorem begin_item.spec (item : ExtendedEventItemFragment) (s : ItemState) :
    Ends (begin_item tables fragment item s) := by
  refine .unless fun _ => ?_
  refine (decode_extended_event_field.spec ..).bind fun decoded _ => ?_
  obtain ⟨description, decoder, out⟩ := decoded
  cases description <;> exact .pure

theorem continue_item.spec (item_index : Nat) (item : ExtendedEventItemFragment) (s : ItemState) :
    Ends (continue_item tables fragment item_index item s) :=
  .unless fun _ => begin_item.spec tables fragment item s

theorem extended_item.spec (s : ItemState) (indexed : Nat × ExtendedEventItemFragment) :
    Ends (extended_item tables fragment s indexed) := by
  refine (continue_item.spec tables ..).bind fun s' _ => ?_
  split
  · exact .pure
  refine (decode_extended_event_field.spec ..).bind fun decoded _ => ?_
  obtain ⟨text, decoder, out⟩ := decoded
  cases text <;> exact .pure

end

theorem extended_fragment.spec (s : ItemState) (fragment : ExtendedEventFragment) :
    Ends (extended_fragment tables s fragment) := by
  refine (decode_extended_event_field.spec ..).bind fun decoded _ => ?_
  refine (foldlM_returns (fun _ => True) (fun s _ item _ => ?_) trivial).bind fun s _ => ?_
  · exact extended_item.spec tables fragment s item
  · exact .pure

/-- A language of a fragment has a first fragment. -/
theorem extended_language.spec {all : List ExtendedEventFragment} {language_code : String}
    (h : language_code ∈ all.map (·.language_code)) :
    Ends (extended_language tables all out language_code) := by
  obtain ⟨fragment, hmem, hlanguage⟩ := mem_map.mp h
  have hfound : fragment ∈ all.filter (·.language_code = language_code) :=
    mem_filter.mpr ⟨hmem, decide_eq_true hlanguage⟩
  refine (index_returns ?_).bind fun first _ => ?_
  · rw [length_mergeSort]
    exact length_pos_of_mem hfound
  · refine .unless fun _ => ?_
    refine (foldlM_returns (fun _ => True) (fun s _ fragment _ => ?_) trivial).bind fun s _ => ?_
    · exact extended_fragment.spec tables s fragment
    · exact .pure

theorem parse_extended_event_fragments.spec (bodies : List RawDescriptor) :
    Ends (parse_extended_event_fragments tables bodies out) := by
  refine (foldlM_returns (fun _ => True) (fun s _ d _ => ?_) trivial).bind fun found _ => ?_
  · exact (parse_extended_event_fragment.spec s.2 d).then_pure
  · refine .unless fun _ => ?_
    refine (foldlM_returns (fun _ => True) (fun out _ language_code hlanguage => ?_)
      trivial).bind fun out _ => ?_
    · exact extended_language.spec tables out
        (mem_reverse.mp (mem_dedup.mp (mem_reverse.mp hlanguage)))
    · exact .pure

/-! ## The other descriptors -/

theorem parse_content_descriptor.spec : Ends (parse_content_descriptor out d) := by
  refine .unless fun _ => ?_
  refine (mapM_returns fun chunk hchunk => ?_).bind fun contents _ => .pure
  have hlen := length_of_mem_chunks_exact hchunk
  refine index_then (by omega) fun content => ?_
  exact index_then (by omega) fun user => .pure

theorem parse_component_descriptor.spec : Ends (parse_component_descriptor tables out d) := by
  refine .unless fun hlen => ?_
  iterate 3 refine index_then (by omega) fun _ => ?_
  refine range_then (by omega) fun language_bytes => ?_
  split
  · exact .pure
  · refine range_then (by omega) fun text => ?_
    exact (decode_descriptor_text_lossy.spec ..).then_pure

theorem read_audio_component.spec (flags : UInt8) (language_code : String)
    (language_code_2 : Option String) (cursor : Nat) (hlen : 9 ≤ d.body.length) :
    Ends (read_audio_component tables out d flags language_code language_code_2 cursor) := by
  iterate 5 refine index_then (by omega) fun _ => ?_
  exact (decode_descriptor_text_lossy.spec ..).then_pure

theorem second_language_of.spec {body : List UInt8} {second_language : Bool}
    (hlen : second_language = true → 12 ≤ body.length) :
    Ends (second_language_of body second_language) := by
  refine .ite (fun hsecond => ?_) fun _ => .pure
  exact (range_returns (by omega) (hlen hsecond)).then_pure

theorem parse_audio_component_descriptor.spec :
    Ends (parse_audio_component_descriptor tables out d) := by
  refine .unless fun hlen => ?_
  refine index_then (by omega) fun flags => ?_
  refine .unless fun hsecond => ?_
  refine (second_language_of.spec fun h => ?_).bind fun lang2 _ => ?_
  · exact Nat.le_of_not_lt fun hshort => hsecond ⟨h, hshort⟩
  · split
    · exact .pure
    · refine range_then (by omega) fun language_bytes => ?_
      split
      · exact .pure
      · exact read_audio_component.spec tables out d flags _ _ _ (by omega)

theorem parse_parental_rating_descriptor.spec : Ends (parse_parental_rating_descriptor out d) := by
  refine .unless fun _ => ?_
  refine (mapM_returns fun chunk hchunk => ?_).bind fun entries _ => ?_
  · have hlen := length_of_mem_chunks_exact hchunk
    refine range_then (by omega) fun country => ?_
    exact index_then (by omega) fun _ => .pure
  · exact .unless fun _ => .pure

theorem parse_series_descriptor.spec : Ends (parse_series_descriptor tables out d) := by
  refine .unless fun hlen => ?_
  refine (u16_at.spec (by omega)).bind fun series_id _ => ?_
  refine index_then (by omega) fun labels => ?_
  refine (u16_at.spec (by omega)).bind fun expire_date _ => ?_
  iterate 4 refine index_then (by omega) fun _ => ?_
  have hname : Ends (series_name_of tables out d) := by
    refine .ite (fun hlong => ?_) fun _ => .pure
    refine range_then (by omega) fun text => ?_
    exact decode_descriptor_text_lossy.spec ..
  exact hname.then_pure

theorem group_events.spec (n cursor : Nat) (hcursor : cursor ≤ body.length) :
    Returns (group_events body n cursor) fun found =>
      ∀ events stop, found = some (events, stop) → stop ≤ body.length := by
  induction n generalizing cursor with
  | zero =>
    refine .ok fun events stop hfound => ?_
    cases hfound
    exact hcursor
  | succ n ih =>
    refine .leave (by nofun) fun hlen => ?_
    iterate 2 refine (u16_at.spec (by omega)).bind fun _ _ => ?_
    refine (ih (cursor + 4) (by omega)).bind fun found hfound => ?_
    cases found with
    | none => exact .ok (by nofun)
    | some rest =>
      refine .ok fun events stop heq => ?_
      cases heq
      exact hfound _ _ rfl

/-- What is left behind the events is a multiple of eight, so each reference of it is whole. -/
theorem other_network_turn.spec (s : Nat × List OtherNetworkEventGroupReference)
    (h : s.1 ≤ body.length ∧ (body.length - s.1) % 8 = 0) :
    Returns (other_network_turn body s)
      (Lowers (fun s => s.1 ≤ body.length ∧ (body.length - s.1) % 8 = 0)
        (fun s => body.length - s.1) (fun _ => True) s) := by
  refine .leave trivial fun hinside => ?_
  iterate 4 refine (u16_at.spec (by omega)).bind fun _ _ => ?_
  exact .ok ⟨⟨by dsimp only; omega, by dsimp only; omega⟩, by dsimp only; omega⟩

theorem parse_event_group_descriptor.spec : Ends (parse_event_group_descriptor body) := by
  refine .unless fun hsome => ?_
  have hpos : 0 < body.length := by
    rw [List.isEmpty_iff] at hsome
    exact length_pos_iff.mpr hsome
  refine index_then hpos fun head => ?_
  refine (group_events.spec body _ 1 hpos).bind fun found hfound => ?_
  cases found with
  | none => exact .pure
  | some found =>
    have hcursor := hfound found.1 found.2 rfl
    refine .ite (fun _ => ?_) fun _ => ?_
    · refine .unless fun hrest => ?_
      refine (loop_returns _ (fun s => body.length - s.1)
        (fun s hs => other_network_turn.spec body s hs) ⟨hcursor, ?_⟩ ?_).bind fun others _ => ?_
      · exact Decidable.not_not.mp hrest
      · exact Nat.lt_succ_of_le (Nat.sub_le _ _)
      · exact .pure
    · exact (range_returns hcursor (Nat.le_refl _)).then_pure

theorem parse_linkage_descriptor.spec : Ends (parse_linkage_descriptor body) := by
  refine .unless fun hlen => ?_
  iterate 3 refine (u16_at.spec (by omega)).bind fun _ _ => ?_
  refine index_then (by omega) fun linkage_type => ?_
  exact range_then (by omega) fun _ => .pure

/-! ## The loop -/

theorem parse_descriptor.spec : Ends (parse_descriptor tables out d) := by
  refine .ite (fun _ => parse_short_event.spec tables out d) fun _ => ?_
  refine .ite (fun _ => parse_content_descriptor.spec out d) fun _ => ?_
  refine .ite (fun _ => ?_) fun _ => ?_
  · exact (parse_component_descriptor.spec tables out d).then_pure
  refine .ite (fun _ => ?_) fun _ => ?_
  · exact (parse_audio_component_descriptor.spec tables out d).then_pure
  refine .ite (fun _ => ?_) fun _ => ?_
  · exact (parse_parental_rating_descriptor.spec out d).then_pure
  refine .ite (fun _ => ?_) fun _ => ?_
  · exact (parse_series_descriptor.spec tables out d).then_pure
  refine .ite (fun _ => ?_) fun _ => ?_
  · exact (parse_event_group_descriptor.spec d.body).then_pure
  refine .unless fun _ => ?_
  refine .ite (fun _ => ?_) fun _ => .pure
  exact (parse_linkage_descriptor.spec d.body).then_pure

theorem descriptor_turn.spec (s : DescriptorState) :
    Returns (descriptor_turn tables bytes s)
      (Lowers (fun _ => True) (fun s => bytes.length - s.cursor) (fun _ => True) s) := by
  refine .leave trivial fun hinside => ?_
  refine range_then (by omega) fun rest => ?_
  refine .leave trivial fun hheader => ?_
  refine index_then (by omega) fun tag => ?_
  refine index_then (by omega) fun declared => ?_
  cases hend : checked_add USIZE_MAX (s.cursor + 2) declared.toNat with
  | none =>
    simp only [hend]
    exact .ok trivial
  | some body_end =>
    simp only [hend]
    have hend := of_checked_add hend
    refine .leave trivial fun hbody => ?_
    refine range_then (by omega) fun body => ?_
    refine .ite (fun _ => ?_) fun _ => ?_
    · exact .ok ⟨trivial, by dsimp only; omega⟩
    · refine (parse_descriptor.spec ..).bind fun out _ => ?_
      exact .ok ⟨trivial, by dsimp only; omega⟩

theorem parse_event_descriptors.spec : Ends (parse_event_descriptors tables bytes) := by
  refine (loop_returns (fun _ => True) (fun s => bytes.length - s.cursor)
    (fun s _ => descriptor_turn.spec tables bytes s) trivial ?_).bind fun s _ => ?_
  · exact Nat.lt_succ_of_le (Nat.sub_le _ _)
  · exact parse_extended_event_fragments.spec ..

end arib_si_engine_rs.descriptors
