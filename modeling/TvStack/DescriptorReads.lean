-- The section headers and the descriptor loops of the service information with
-- checked accesses. Each loop walks over attacker-controlled lengths with a cursor,
-- stays inside of its bytes, and gives what the pure model gives.
import TvStack.AribStrings
import TvStack.Checked
import TvStack.Cursors
import TvStack.SiDescriptors
import TvStack.SiSections

open Checked Cursors Items Words List

namespace arib_si_engine_rs.sections

variable {bytes : List UInt8} {i start stop : Nat}

/-- An index in range is the byte there. -/
theorem index_eq_byte (h : i < bytes.length) : index bytes i = .ok (byte bytes i) := by
  simp only [index, byte, List.getD_eq_getElem?_getD, List.getElem?_eq_getElem h, Option.getD_some]

theorem range_eq_slice (h : start ≤ stop ∧ stop ≤ bytes.length) :
    range bytes start stop = .ok (slice bytes start stop) :=
  if_pos h

theorem ok_bind {α β : Type} (a : α) (f : α → Run β) : (Except.ok a >>= f) = f a := rfl

theorem index_bind {α : Type} {f : UInt8 → Run α} (h : i < bytes.length) :
    (index bytes i >>= f) = f (byte bytes i) := by
  rw [index_eq_byte h, ok_bind]

theorem range_bind {α : Type} {f : List UInt8 → Run α}
    (h : start ≤ stop ∧ stop ≤ bytes.length) :
    (range bytes start stop >>= f) = f (slice bytes start stop) := by
  rw [range_eq_slice h, ok_bind]

/-- `parse_section_header` with checked accesses. -/
def read_section_header (bytes : List UInt8) : Run (Option SectionHeader) := do
  if bytes.length < 3 then return none
  let b1 ← index bytes 1
  let section_length := be12 b1 (← index bytes 2)
  let total_length := 3 + section_length
  if bytes.length < total_length then return none
  if (b1 &&& 0x80) != 0 then
    if total_length < 8 then return none
    let b5 ← index bytes 5
    return some
      { table_id := ← index bytes 0
        syntax_indicator := true
        section_length
        total_length
        table_id_extension := some (be16 (← index bytes 3) (← index bytes 4))
        version := some ((b5 >>> 1) &&& 0x1f)
        current_next_indicator := some ((b5 &&& 0x01) != 0)
        section_number := some (← index bytes 6)
        last_section_number := some (← index bytes 7) }
  else
    return some
      { table_id := ← index bytes 0
        syntax_indicator := false
        section_length
        total_length
        table_id_extension := none
        version := none
        current_next_indicator := none
        section_number := none
        last_section_number := none }

/-- The header is read inside of the bytes, whatever they are. -/
theorem read_section_header.spec (bytes : List UInt8) :
    read_section_header bytes = .ok (parse_section_header bytes) := by
  unfold read_section_header parse_section_header
  by_cases hthree : bytes.length < 3
  · simp only [if_pos hthree]
    rfl
  simp only [if_neg hthree]
  rw [index_bind (by omega), index_bind (by omega)]
  by_cases htotal : bytes.length < 3 + be12 (byte bytes 1) (byte bytes 2)
  · simp only [if_pos htotal]
    rfl
  simp only [if_neg htotal]
  rw [show index bytes 0 = _ from index_eq_byte (by omega)]
  split
  · split
    · rfl
    · simp (disch := omega) only [index_eq_byte, ok_bind]
      rfl
  · rfl

/-- A header says how long its section is, and the section is that long. -/
theorem total_length_le {bytes : List UInt8} {header : SectionHeader}
    (h : parse_section_header bytes = some header) :
    header.total_length = 3 + header.section_length ∧ header.total_length ≤ bytes.length ∧
      3 ≤ bytes.length := by
  unfold parse_section_header at h
  split at h
  · contradiction
  dsimp only at h
  split at h
  · contradiction
  split at h
  · split at h
    · contradiction
    · cases h
      exact ⟨rfl, by dsimp only; omega, by omega⟩
  · cases h
    exact ⟨rfl, by dsimp only; omega, by omega⟩

variable {limit : Nat}

theorem byte_slice (h : start + i < stop) :
    byte (slice bytes start stop) i = byte bytes (start + i) := by
  simp only [byte, slice, getD_eq_getElem?_getD, getElem?_drop, getElem?_take, if_pos h]

theorem length_slice (h : stop ≤ bytes.length) : (slice bytes start stop).length = stop - start :=
  length_window h

theorem slice_slice {a b c d : Nat} (h : a + d ≤ b) :
    slice (slice bytes a b) c d = slice bytes (a + c) (a + d) := by
  simp only [slice, take_drop, take_take, drop_drop, Nat.min_eq_left h]

@[simp]
theorem slice_all (bytes : List UInt8) : slice bytes 0 bytes.length = bytes := by
  simp [slice]

/-- An index of a part is one of the whole. -/
theorem index_slice (h : start + i < stop) (hstop : stop ≤ bytes.length) :
    index bytes (start + i) = .ok (byte (slice bytes start stop) i) := by
  rw [byte_slice h, index_eq_byte (by omega)]

theorem slice_bind {α : Type} {f : UInt8 → Run α} (h : start + i < stop)
    (hstop : stop ≤ bytes.length) :
    (index bytes (start + i) >>= f) = f (byte (slice bytes start stop) i) := by
  rw [index_slice h hstop, ok_bind]

theorem slice_bind_zero {α : Type} {f : UInt8 → Run α} (h : start < stop)
    (hstop : stop ≤ bytes.length) :
    (index bytes start >>= f) = f (byte (slice bytes start stop) 0) :=
  slice_bind (i := 0) h hstop

section Walks

variable {σ ρ : Type}

/-- `while cursor + 2 <= limit`, over descriptors with a tag and a length. A descriptor is visited
with its tag and where its body starts and stops. -/
def descriptor_walk (bytes : List UInt8) (visit : σ → UInt8 → Nat → Nat → Run (σ ⊕ ρ))
    (broken : σ → UInt8 → Nat → Run ρ) (finish : σ → Nat → ρ) : Walk σ ρ where
  head := 2
  length cursor := do return (← index bytes (cursor + 1)).toNat
  visit s cursor stop := do visit s (← index bytes cursor) (cursor + 2) stop
  broken s cursor := do broken s (← index bytes cursor) cursor
  finish s cursor := pure (finish s cursor)

variable {visit : σ → UInt8 → Nat → Nat → Run (σ ⊕ ρ)}
  {broken : σ → UInt8 → Nat → Run ρ} {finish : σ → Nat → ρ}
  (step : σ → UInt8 × List UInt8 → σ ⊕ ρ) (done : σ → List UInt8 → ρ)

/-- The rule of the descriptor loops, with an invariant of the cursor. -/
theorem descriptor_walk.spec_of (inv : σ → Nat → Prop) (hlimit : limit ≤ bytes.length)
    (hvisit : ∀ s c stop, inv s c → stop = c + 2 + (byte bytes (c + 1)).toNat → stop ≤ limit →
      visit s (byte bytes c) (c + 2) stop = .ok (step s (byte bytes c, slice bytes (c + 2) stop)))
    (hkeeps : ∀ s c stop, inv s c → stop = c + 2 + (byte bytes (c + 1)).toNat → stop ≤ limit →
      ∀ next, step s (byte bytes c, slice bytes (c + 2) stop) = .inl next → inv next stop)
    (hbroken : ∀ s c, inv s c → c + 2 ≤ limit → limit < c + 2 + (byte bytes (c + 1)).toNat →
      broken s (byte bytes c) c = .ok (done s (slice bytes c limit)))
    (hfinish : ∀ s c, inv s c → limit < c + 2 → finish s c = done s (slice bytes c limit)) {s : σ}
    (hs : inv s start) :
    (descriptor_walk bytes visit broken finish).run limit start s =
      .ok (follow step (fun s => done s (cut next_descriptor (slice bytes start limit)).2) s
        (cut next_descriptor (slice bytes start limit)).1) := by
  have hhead (c : Nat) : byte (window bytes c (c + 2)) 0 = byte bytes (c + 0) :=
    byte_slice (by omega)
  have hlen (c : Nat) : byte (window bytes c (c + 2)) 1 = byte bytes (c + 1) :=
    byte_slice (by omega)
  have hreads : (descriptor_walk bytes visit broken finish).Reads bytes limit inv
      (fun header => (byte header 1).toNat)
      (fun header body => (byte header 0, body)) step done := by
    refine ⟨Nat.two_pos, hlimit, fun c hc => ?_, fun s c stop hinv hstop hle => ?_,
      fun s c stop hinv hstop hle next => ?_, fun s c hinv hc hcut => ?_, fun s c hinv hc => ?_⟩
    · have hc' : c + 2 ≤ limit := hc
      simp only [descriptor_walk, hlen, index_eq_byte (show c + 1 < bytes.length by omega)]
      rfl
    · simp only [descriptor_walk, hlen, hhead] at hstop ⊢
      rw [index_bind (by omega)]
      exact hvisit s c stop hinv hstop hle
    · simp only [descriptor_walk, hlen, hhead] at hstop ⊢
      exact hkeeps s c stop hinv hstop hle next
    · simp only [descriptor_walk, hlen] at hc hcut ⊢
      rw [index_bind (by omega)]
      exact hbroken s c hinv hc hcut
    · exact congrArg Except.ok (hfinish s c hinv hc)
  exact hreads.run hs

theorem descriptor_walk.spec (hlimit : limit ≤ bytes.length)
    (hvisit : ∀ s tag start stop, start ≤ stop → stop ≤ limit →
      visit s tag start stop = .ok (step s (tag, slice bytes start stop)))
    (hbroken : ∀ s c, c + 2 ≤ limit →
      broken s (byte bytes c) c = .ok (done s (slice bytes c limit)))
    (hfinish : ∀ s c, limit < c + 2 → finish s c = done s (slice bytes c limit)) (s : σ) :
    (descriptor_walk bytes visit broken finish).run limit start s =
      .ok (follow step (fun s => done s (cut next_descriptor (slice bytes start limit)).2) s
        (cut next_descriptor (slice bytes start limit)).1) :=
  descriptor_walk.spec_of step done (fun _ _ => True) hlimit
    (fun s c stop _ hstop hle => hvisit s _ _ stop (by omega) hle) (fun _ _ _ _ _ _ _ _ => trivial)
    (fun s c _ hc _ => hbroken s c hc) (fun s c _ => hfinish s c) trivial

/-- `while cursor + size <= limit`, over entries with the length of their descriptors in two bytes
of the head. -/
def entry_walk (bytes : List UInt8) (size len_at : Nat)
    (visit : σ → Nat → Nat → Run (σ ⊕ ρ)) (broken : σ → ρ) (finish : σ → Nat → ρ) :
    Walk σ ρ where
  head := size
  length cursor := do
    return be12 (← index bytes (cursor + len_at)) (← index bytes (cursor + (len_at + 1)))
  visit := visit
  broken s _ := pure (broken s)
  finish s cursor := pure (finish s cursor)

theorem entry_walk.spec {β : Type} {size len_at : Nat}
    {visit : σ → Nat → Nat → Run (σ ⊕ ρ)} {broken : σ → ρ} {finish : σ → Nat → ρ}
    (make : List UInt8 → List UInt8 → β) (step : σ → β → σ ⊕ ρ) (done : σ → List UInt8 → ρ)
    (hsize : len_at + 2 ≤ size) (hlimit : limit ≤ bytes.length)
    (hvisit : ∀ s c stop, c + size ≤ stop → stop ≤ limit →
      visit s c stop = .ok (step s (make (slice bytes c (c + size)) (slice bytes (c + size) stop))))
    (hbroken : ∀ s c, c + size ≤ limit → broken s = done s (slice bytes c limit))
    (hfinish : ∀ s c, limit < c + size → finish s c = done s (slice bytes c limit)) (s : σ) :
    (entry_walk bytes size len_at visit broken finish).run limit start s =
      .ok (follow step
        (fun s => done s (cut (sized size
          (fun header => be12 (byte header len_at) (byte header (len_at + 1))) make)
          (slice bytes start limit)).2) s
        (cut (sized size (fun header => be12 (byte header len_at) (byte header (len_at + 1))) make)
          (slice bytes start limit)).1) := by
  have hreads : (entry_walk bytes size len_at visit broken finish).Reads bytes limit
      (fun _ _ => True) (fun header => be12 (byte header len_at) (byte header (len_at + 1))) make
      step done := by
    refine ⟨show 0 < size by omega, hlimit, fun c hc => ?_, fun s c stop _ hstop hle => ?_,
      fun _ _ _ _ _ _ _ _ => trivial, fun s c _ hc _ => ?_, fun s c _ hc => ?_⟩
    · have hhead : c + size ≤ bytes.length := Nat.le_trans hc hlimit
      have hread (i : Nat) (hi : i < size) :
          index bytes (c + i) = .ok (byte (slice bytes c (c + size)) i) :=
        index_slice (by omega) hhead
      simp only [entry_walk, hread len_at (by omega), hread (len_at + 1) (by omega)]
      rfl
    · exact hvisit s c stop (hstop ▸ Nat.le_add_right _ _) hle
    · exact congrArg Except.ok (hbroken s c hc)
    · exact congrArg Except.ok (hfinish s c hc)
  exact hreads.run trivial

end Walks

end arib_si_engine_rs.sections

namespace arib_si_engine_rs.service_discovery

open arib_si_engine_rs.sections
open arib_si_engine_rs.arib_string (GraphicTables decode_arib_string_lossy)

/-- The decoder of ARIB strings, which always gives a text. -/
def decoder_of (tables : GraphicTables) : AribStringDecoder := fun bytes =>
  match decode_arib_string_lossy tables bytes with
  | .ok (value, diagnostic) => ⟨value, diagnostic.replacement_count, diagnostic.summary⟩
  | .error _ => ⟨"", 0, ""⟩

namespace checked

variable (tables : GraphicTables) {bytes : List UInt8} {start stop : Nat}

/-! ## Texts -/

def decode_si_text_lossy (field : String) (bytes : List UInt8) : Run DecodedSiText := do
  let (value, diagnostic) ← decode_arib_string_lossy tables bytes
  return .of field ⟨value, diagnostic.replacement_count, diagnostic.summary⟩

theorem decode_si_text_lossy.spec (field : String) (bytes : List UInt8) :
    decode_si_text_lossy tables field bytes =
      .ok (service_discovery.decode_si_text_lossy (decoder_of tables) field bytes) := by
  obtain ⟨⟨value, diagnostic⟩, hdecoded, -⟩ :=
    arib_string.decode_arib_string_lossy.spec bytes tables
  unfold decode_si_text_lossy service_discovery.decode_si_text_lossy decoder_of
  rw [hdecoded]
  rfl

/-- The text in the first descriptor with this tag. -/
def parse_name (wanted : UInt8) (field : String) (bytes : List UInt8) :
    Run (Option DecodedSiText) :=
  (descriptor_walk bytes
    (fun _ tag start stop =>
      if tag = wanted then do
        return .inr (some (← decode_si_text_lossy tables field (← range bytes start stop)))
      else return .inl ())
    (fun _ _ _ => pure none) (fun _ _ => none)).run bytes.length 0 ()

def parse_network_name : List UInt8 → Run (Option DecodedSiText) :=
  parse_name tables 0x40 "networkName"

def parse_bouquet_name : List UInt8 → Run (Option DecodedSiText) :=
  parse_name tables 0x47 "bouquetName"

theorem parse_name.spec (wanted : UInt8) (field : String) (bytes : List UInt8) :
    parse_name tables wanted field bytes =
      .ok (service_discovery.parse_name (decoder_of tables) wanted field bytes) := by
  let text (item : UInt8 × List UInt8) : DecodedSiText :=
    service_discovery.decode_si_text_lossy (decoder_of tables) field item.2
  unfold parse_name service_discovery.parse_name
  rw [descriptor_walk.spec
    (fun _ item => if item.1 = wanted then .inr (some (text item)) else .inl ()) (fun _ _ => none)
    (Nat.le_refl _) (fun _ tag start stop hle hstop => ?_) (fun _ _ _ => rfl) (fun _ _ _ => rfl),
    slice_all, follow_find (fun item : UInt8 × List UInt8 => item.1 = wanted) text]
  split
  · rw [range_bind ⟨hle, hstop⟩, decode_si_text_lossy.spec]
    rfl
  · rfl

/-! ## System management -/

def parse_system_management_descriptor (bytes : List UInt8) : Run SystemManagementFacts :=
  (descriptor_walk bytes
    (fun (parsed : Option SystemManagementFacts) tag start stop =>
      if tag ≠ 0xfe then return .inl parsed
      else if parsed.isSome then
        return .inr { descriptor_present := true, diagnostic := some .SMD_DESCRIPTOR_DUPLICATE }
      else if stop - start < 2 then
        return .inr { descriptor_present := true, diagnostic := some .SMD_DESCRIPTOR_TOO_SHORT }
      else do
        let system_management_id := be16 (← index bytes start) (← index bytes (start + 1))
        return .inl (some (smd_facts system_management_id (← range bytes (start + 2) stop))))
    (fun parsed tag _ => return {
      descriptor_present := decide (tag = 0xfe) || parsed.isSome
      diagnostic := some .SMD_DESCRIPTOR_LENGTH_INVALID })
    (fun parsed _ => parsed.getD { diagnostic := some .SMD_DESCRIPTOR_MISSING })).run
      bytes.length 0 none

theorem parse_system_management_descriptor.spec (bytes : List UInt8) :
    parse_system_management_descriptor bytes =
      .ok (service_discovery.parse_system_management_descriptor bytes) := by
  unfold parse_system_management_descriptor service_discovery.parse_system_management_descriptor
  rw [descriptor_walk.spec smd_step smd_done (Nat.le_refl _)
    (fun parsed tag start stop hle hstop => ?_)
    (fun parsed c hc => ?_) (fun parsed c hc => ?_), slice_all]
  · have hlength : (slice bytes start stop).length = stop - start := length_slice hstop
    have hinfo : slice bytes (start + 2) stop = (slice bytes start stop).drop 2 := drop_window.symm
    simp only [smd_step, hlength]
    iterate 3
      split
      · rfl
    · rw [slice_bind_zero (by omega) hstop, slice_bind (by omega) hstop,
        range_eq_slice (by omega), hinfo]
      rfl
  · have hlong : 2 ≤ (slice bytes c bytes.length).length := by
      rw [length_slice (Nat.le_refl _)]
      omega
    have htag : byte (slice bytes c bytes.length) 0 = byte bytes (c + 0) := byte_slice (by omega)
    rw [smd_done, if_pos hlong, htag]
    rfl
  · have hshort : ¬ 2 ≤ (slice bytes c bytes.length).length := by
      rw [length_slice (Nat.le_refl _)]
      omega
    rw [smd_done, if_neg hshort]

/-! ## The transports of a NIT and the service lists -/

def apply_nit_transport_descriptor (bytes : List UInt8) (metadata : NitTransportMetadata)
    (tag : UInt8) (start stop : Nat) : Run NitTransportMetadata :=
  if tag = 0x40 then do
    let name ← decode_si_text_lossy tables "networkName" (← range bytes start stop)
    return { metadata with network_name := some name }
  else if tag = 0xcd ∧ 2 ≤ stop - start then do
    let metadata := { metadata with remote_control_key_id := some (← index bytes start) }
    let ts_name_len := (((← index bytes (start + 1)) >>> 2) &&& 0x3f).toNat
    let ts_name_start := start + 2
    if ts_name_len ≤ stop - ts_name_start then
      let name ← decode_si_text_lossy tables "transportStreamName"
        (← range bytes ts_name_start (ts_name_start + ts_name_len))
      return { metadata with ts_name := some name }
    else return metadata
  else return metadata

theorem apply_nit_transport_descriptor.spec (metadata : NitTransportMetadata) (tag : UInt8)
    (h : start ≤ stop) (hstop : stop ≤ bytes.length) :
    apply_nit_transport_descriptor tables bytes metadata tag start stop =
      .ok (service_discovery.apply_nit_transport_descriptor (decoder_of tables) metadata tag
        (slice bytes start stop)) := by
  have hlength : (slice bytes start stop).length = stop - start := length_slice hstop
  unfold apply_nit_transport_descriptor service_discovery.apply_nit_transport_descriptor
  rw [hlength]
  split
  · rw [range_bind ⟨h, hstop⟩, decode_si_text_lossy.spec]
    rfl
  split
  · rw [slice_bind_zero (by omega) hstop, slice_bind (by omega) hstop]
    dsimp only
    rw [Nat.sub_add_eq]
    split
    · have hname : slice bytes (start + 2)
          (start + 2 + ((byte (slice bytes start stop) 1 >>> 2) &&& 0x3f).toNat) =
            ((slice bytes start stop).drop 2).take
              ((byte (slice bytes start stop) 1 >>> 2) &&& 0x3f).toNat := by
        have hdrop : (slice bytes start stop).drop 2 = slice bytes (start + 2) stop := drop_window
        rw [hdrop]
        exact (take_window (by omega)).symm
      rw [range_bind (by omega), decode_si_text_lossy.spec, hname]
      rfl
    · rfl
  · rfl

/-- The facts are none at all where the source gives `None`. -/
def parse_nit_transport_metadata (bytes : List UInt8) : Run NitTransportMetadata :=
  (descriptor_walk bytes
    (fun metadata tag start stop => do
      return .inl (← apply_nit_transport_descriptor tables bytes metadata tag start stop))
    (fun metadata _ _ => pure metadata) (fun metadata _ => metadata)).run bytes.length 0 {}

theorem parse_nit_transport_metadata.spec (bytes : List UInt8) :
    parse_nit_transport_metadata tables bytes =
      .ok (service_discovery.parse_nit_transport_metadata (decoder_of tables) bytes) := by
  unfold parse_nit_transport_metadata service_discovery.parse_nit_transport_metadata
  rw [descriptor_walk.spec
    (fun metadata item => .inl (service_discovery.apply_nit_transport_descriptor (decoder_of tables)
      metadata item.1 item.2)) (fun metadata _ => metadata) (Nat.le_refl _)
    (fun metadata tag start stop hle hstop => ?_) (fun _ _ _ => rfl) (fun _ _ _ => rfl), slice_all,
    follow_inl]
  rw [apply_nit_transport_descriptor.spec tables metadata tag hle hstop]
  rfl

/-- `while sc + 3 <= body_end` -/
def service_entries (bytes : List UInt8) (start stop : Nat) (out : List (Nat × UInt8)) :
    Run (List (Nat × UInt8)) :=
  (fixed_walk 3 fun out sc => do
    let service_id := be16 (← index bytes sc) (← index bytes (sc + 1))
    return out ++ [(service_id, ← index bytes (sc + 2))]).run stop start out

def parse_service_list (bytes : List UInt8) : Run (List (Nat × UInt8)) :=
  (descriptor_walk bytes
    (fun out tag start stop =>
      if tag = 0x41 then do return .inl (← service_entries bytes start stop out)
      else return .inl out)
    (fun out _ _ => pure out) (fun out _ => out)).run bytes.length 0 []

def parse_service_ids_from_descriptors (bytes : List UInt8) : Run (List Nat) := do
  return (← parse_service_list bytes).map Prod.fst

theorem foldl_push {α : Type} (out items : List α) :
    items.foldl (fun out a => out ++ [a]) out = out ++ items := by
  induction items generalizing out with
  | nil => exact (append_nil out).symm
  | cons a items ih => rw [foldl_cons, ih, append_assoc, singleton_append]

theorem service_entries.spec (hstop : stop ≤ bytes.length) (out : List (Nat × UInt8)) :
    service_entries bytes start stop out =
      .ok (out ++ listed_services (slice bytes start stop)) := by
  unfold service_entries
  rw [fixed_walk_run (fun entry _ => (be16 (byte entry 0) (byte entry 1), byte entry 2))
    (fun out a => out ++ [a]) (by decide) hstop (fun out c hc => ?_), foldl_push]
  · rfl
  · have hentry : c + 3 ≤ bytes.length := by omega
    rw [slice_bind_zero (by omega) hentry, slice_bind (by omega) hentry,
      index_slice (by omega) hentry]
    rfl

theorem parse_service_list.spec (bytes : List UInt8) :
    parse_service_list bytes = .ok (service_discovery.parse_service_list bytes) := by
  unfold parse_service_list service_discovery.parse_service_list
  rw [descriptor_walk.spec
    (fun out item => .inl (if item.1 = 0x41 then out ++ listed_services item.2 else out))
    (fun out _ => out) (Nat.le_refl _) (fun out tag start stop hle hstop => ?_) (fun _ _ _ => rfl)
    (fun _ _ _ => rfl), slice_all, follow_inl]
  split
  · rw [service_entries.spec hstop]
    rfl
  · rfl

end checked

end arib_si_engine_rs.service_discovery
