-- The descriptors of an event: what each of them says, what is wrong with it, and
-- the fragments of the extended event that are put together by language. Every
-- access is checked when it is made.
import TvStack.AribStrings
import TvStack.SiDescriptors

open Checked Words

namespace arib_si_engine_rs.descriptors

open arib_si_engine_rs.arib_string

inductive DescriptorParseStatus
  | Ok
  | MalformedLength
  | TruncatedDescriptor
  | UnsupportedValue
  | InvalidSequence
  deriving DecidableEq

def DescriptorParseStatus.is_structural_error : DescriptorParseStatus → Bool
  | .MalformedLength | .TruncatedDescriptor | .InvalidSequence => true
  | .Ok | .UnsupportedValue => false

structure DescriptorDiagnostic where
  parse_status : DescriptorParseStatus
  descriptor_tag : UInt8
  (offset declared_length remaining_length : Nat)
  raw_prefix : List UInt8
  message : String

structure TruncatedDescriptorLoop where
  declared_length : Nat
  raw_bytes : List UInt8

structure ExtendedEventItem where
  (language_code item_description item_text : String)

structure ShortEventText where
  (language_code title text : String)

structure ExtendedEventText where
  language_code : String
  text : String

structure ContentDescriptorItem where
  (content_nibble_level_1 content_nibble_level_2 user_nibble_1 user_nibble_2 : UInt8)
  arib_display_name : String

structure ComponentDescriptor where
  (stream_content component_type component_tag : UInt8)
  language_code : String
  text : String

structure AudioComponentDescriptor where
  (stream_content component_type component_tag stream_type simulcast_group_tag : UInt8)
  es_multi_lingual_flag : Bool
  main_component_flag : Bool
  quality_indicator : UInt8
  sampling_rate : UInt8
  language_code : String
  language_code_2 : Option String
  text : String

structure ParentalRating where
  country_code : String
  raw_rating_byte : UInt8

structure ParentalRatingDescriptor where
  entries : List ParentalRating
  raw_descriptor_bytes : List UInt8
  parse_status : DescriptorParseStatus

structure SeriesDescriptor where
  series_id : Nat
  repeat_label : UInt8
  program_pattern : UInt8
  expire_date_valid : Bool
  (expire_date episode_number last_episode_number : Nat)
  series_name : String

structure EventGroupReference where
  service_id : Nat
  event_id : Nat

structure OtherNetworkEventGroupReference where
  (original_network_id transport_stream_id service_id event_id : Nat)

structure EventGroupDescriptor where
  group_type : UInt8
  events : List EventGroupReference
  other_network_events : List OtherNetworkEventGroupReference
  private_data : List UInt8

structure ComponentGroup where
  component_group_id : UInt8
  component_tags : List UInt8

structure ComponentGroupDescriptor where
  component_group_type : UInt8
  groups : List ComponentGroup

structure LinkageDescriptor where
  (transport_stream_id original_network_id service_id : Nat)
  linkage_type : UInt8
  private_data : List UInt8

structure EventDescriptors where
  truncated_loop : Option TruncatedDescriptorLoop := none
  diagnostics : List DescriptorDiagnostic := []
  title : String := ""
  description : String := ""
  extended_description : String := ""
  short_events : List ShortEventText := []
  extended_texts : List ExtendedEventText := []
  contents : List ContentDescriptorItem := []
  components : List ComponentDescriptor := []
  audio_components : List AudioComponentDescriptor := []
  parental_ratings : List ParentalRating := []
  parental_rating_descriptors : List ParentalRatingDescriptor := []
  series : List SeriesDescriptor := []
  event_groups : List EventGroupDescriptor := []
  component_groups : List ComponentGroupDescriptor := []
  linkages : List LinkageDescriptor := []
  extended_items : List ExtendedEventItem := []
  unknown : List (UInt8 × List UInt8) := []

/-! ## Diagnostics -/

def descriptor_diagnostic (status : DescriptorParseStatus) (tag : UInt8)
    (offset declared_length remaining_length : Nat) (raw : List UInt8) (message : String) :
    DescriptorDiagnostic :=
  let declared := UInt8.ofNat declared_length
  { parse_status := status
    descriptor_tag := tag
    offset
    declared_length
    remaining_length
    raw_prefix :=
      if tag ≠ 0xff ∧ ¬ (raw.head? = some tag ∧ raw[1]? = some declared) then
        (tag :: declared :: raw).take 16
      else raw.take 16
    message }

def event_descriptor_loop_truncated_diagnostic (offset declared_length remaining_length : Nat)
    (raw : List UInt8) : DescriptorDiagnostic :=
  descriptor_diagnostic .TruncatedDescriptor 0xff offset declared_length remaining_length raw
    "EITのイベント記述子長がsection本文を超えています"

/-- A descriptor as it stands in the loop. -/
structure RawDescriptor where
  tag : UInt8
  offset : Nat
  declared_length : Nat
  body : List UInt8

def EventDescriptors.diagnose (out : EventDescriptors) (diagnostic : DescriptorDiagnostic) :
    EventDescriptors :=
  { out with diagnostics := out.diagnostics ++ [diagnostic] }

/-- A diagnostic of this descriptor, with its body. -/
def EventDescriptors.report (out : EventDescriptors) (d : RawDescriptor)
    (status : DescriptorParseStatus) (remaining_length : Nat) (message : String) :
    EventDescriptors :=
  out.diagnose (descriptor_diagnostic status d.tag d.offset d.declared_length remaining_length
    d.body message)

/-! ## Texts -/

/-- The white space of Unicode. -/
def isWhitespace (c : Char) : Bool :=
  let n := c.toNat
  (decide (9 ≤ n) && decide (n ≤ 13)) || n = 0x20 || n = 0x85 || n = 0xa0 || n = 0x1680 ||
    (decide (0x2000 ≤ n) && decide (n ≤ 0x200a)) || n = 0x2028 || n = 0x2029 || n = 0x202f ||
    n = 0x205f || n = 0x3000

def trim (text : String) : String :=
  String.ofList (((text.toList.dropWhile isWhitespace).reverse.dropWhile isWhitespace).reverse)

def is_ascii_alphabetic (b : UInt8) : Bool :=
  (decide (0x41 ≤ b) && decide (b ≤ 0x5a)) || (decide (0x61 ≤ b) && decide (b ≤ 0x7a))

/-- A character whose bytes are all letters. -/
def isAsciiLetter (c : Char) : Bool :=
  decide (c.toNat < 128) && is_ascii_alphabetic (UInt8.ofNat c.toNat)

variable (bytes : List UInt8)

def language : String :=
  trim (arib_si_engine_rs.service_discovery.from_utf8_lossy bytes)

/-- The text of bytes that are all letters. -/
def ascii : String := String.ofList (bytes.map fun b => Char.ofNat b.toNat)

def validated_language : Except DescriptorParseStatus String :=
  if bytes.length ≠ 3 ∨ !bytes.all is_ascii_alphabetic then .error .UnsupportedValue
  else .ok (ascii bytes)

/-- A position of a text behind the header of its descriptor. -/
def text_offset (offset start : Nat) : Nat :=
  saturating_add USIZE_MAX (saturating_add USIZE_MAX offset 2) start

/-! ## Genres -/

def MAJOR_NAMES : List String :=
  [
    "ニュース/報道", "スポーツ", "情報/ワイドショー", "ドラマ", "音楽", "バラエティ",
    "映画", "アニメ/特撮", "ドキュメンタリー/教養", "劇場/公演", "趣味/教育", "福祉"
  ]

def MINOR_NAMES : List (List String) :=
  [
    [
      "定時・総合", "天気", "特集・ドキュメント", "政治・国会", "経済・市況", "海外・国際",
      "解説", "討論・会談", "報道特番", "ローカル・地域", "交通"
    ],
    [
      "スポーツニュース", "野球", "サッカー", "ゴルフ", "その他の球技", "相撲・格闘技",
      "オリンピック・国際大会", "マラソン・陸上・水泳", "モータースポーツ",
      "マリン・ウィンタースポーツ", "競馬・公営競技"
    ],
    [
      "芸能・ワイドショー", "ファッション", "暮らし・住まい", "健康・医療",
      "ショッピング・通販", "グルメ・料理", "イベント", "番組紹介・お知らせ"
    ],
    [
      "国内ドラマ", "海外ドラマ", "時代劇"
    ],
    [
      "国内ロック・ポップス", "海外ロック・ポップス", "クラシック・オペラ", "ジャズ・フュージョン",
      "歌謡曲・演歌", "ライブ・コンサート", "ランキング・リクエスト", "カラオケ・のど自慢",
      "民謡・邦楽", "童謡・キッズ", "民族音楽・ワールドミュージック"
    ],
    [
      "クイズ", "ゲーム", "トークバラエティ", "お笑い・コメディ", "音楽バラエティ",
      "旅バラエティ", "料理バラエティ"
    ],
    [
      "洋画", "邦画", "アニメ"
    ],
    [
      "国内アニメ", "海外アニメ", "特撮"
    ],
    [
      "社会・時事", "歴史・紀行", "自然・動物・環境", "宇宙・科学・医学",
      "カルチャー・伝統文化", "文学・文芸", "スポーツ", "ドキュメンタリー全般",
      "インタビュー・討論"
    ],
    [
      "現代劇・新劇", "ミュージカル", "ダンス・バレエ", "落語・演芸", "歌舞伎・古典"
    ],
    [
      "旅・釣り・アウトドア", "園芸・ペット・手芸", "音楽・美術・工芸", "囲碁・将棋",
      "麻雀・パチンコ", "車・オートバイ", "コンピュータ・TVゲーム", "会話・語学",
      "幼児・小学生", "中学生・高校生", "大学生・受験", "生涯教育・資格", "教育問題"
    ],
    [
      "高齢者", "障害者", "社会福祉", "ボランティア", "手話", "文字（字幕）", "音声解説"
    ]
  ]

def arib_content_major_name (level1 : UInt8) : String := MAJOR_NAMES.getD level1.toNat "その他"

def arib_content_minor_name (level1 level2 : UInt8) : String :=
  (MINOR_NAMES.getD level1.toNat []).getD level2.toNat
    (if level2 = 0x0f then "その他" else "未定義")

def arib_content_to_display_name (level1 level2 : UInt8) : String :=
  arib_content_major_name level1 ++ "/" ++ arib_content_minor_name level1 level2

section Parsers

variable (tables : GraphicTables) (bytes : List UInt8) (out : EventDescriptors)
  (d : RawDescriptor) (body : List UInt8)

def decode_descriptor_text_lossy (field_kind : String) (field_offset : Nat) :
    Run (String × EventDescriptors) := do
  let (decoded, diagnostic) ← decode_arib_string_lossy tables bytes
  if diagnostic.replacement_count ≠ 0 then
    return (decoded, out.report d .UnsupportedValue d.body.length
      ("記述子の文字列を代替復号しました field=" ++ field_kind ++ " field_offset=" ++
        toString field_offset ++ ": " ++ diagnostic.summary))
  else return (decoded, out)

def u16_at (offset : Nat) : Run Nat := do
  return be16 (← index bytes offset) (← index bytes (offset + 1))

/-! ## Short events -/

/-- The texts of a short event whose lengths are right. -/
def read_short_event (name_end text_end : Nat) : Run EventDescriptors := do
  let language_code := language (← range d.body 0 3)
  if language_code.utf8ByteSize ≠ 3 ∨
      !language_code.toList.all isAsciiLetter then
    return out.report d .UnsupportedValue d.body.length
      "short_event_descriptorのISO_639_language_codeが不正です"
  if out.short_events.any (·.language_code = language_code) then
    return out.report d .InvalidSequence d.body.length
      ("short_event_descriptorが同じ言語で重複しています language=" ++ language_code)
  let (title, out) ← decode_descriptor_text_lossy tables (← range d.body 4 name_end) out d
    "eventName" (text_offset d.offset 4)
  let (text, out) ← decode_descriptor_text_lossy tables (← range d.body (name_end + 1) text_end)
    out d "text" (text_offset d.offset (name_end + 1))
  let (title, text) := (trim title, trim text)
  let out := { out with short_events := out.short_events ++ [⟨language_code, title, text⟩] }
  return if out.short_events.length = 1 then { out with title, description := text } else out

def parse_short_event : Run EventDescriptors := do
  let len := d.body.length
  if len < 4 then
    return out.report d .MalformedLength len "short_event_descriptorが固定欄より短くなっています"
  let some name_end := checked_add USIZE_MAX 4 (← index d.body 3).toNat
    | return out.report d .MalformedLength len
        "short_event_descriptorの番組名長が上限を超えています"
  if len < name_end then
    return out.report d .MalformedLength (len - 4)
      "short_event_descriptorの番組名長が本文の範囲を超えています"
  if len ≤ name_end then
    return out.report d .MalformedLength 0 "short_event_descriptorの本文長バイトがありません"
  let some text_end := checked_add USIZE_MAX (name_end + 1) (← index d.body name_end).toNat
    | return out.report d .MalformedLength len
        "short_event_descriptorの本文長が上限を超えています"
  if text_end ≠ len then
    return out.report d .MalformedLength (len - (name_end + 1))
      "short_event_descriptorの本文長が実際の本文と一致しません"
  read_short_event tables out d name_end text_end

/-! ## Extended events -/

structure ExtendedEventItemFragment where
  (description text : List UInt8)
  description_offset : Nat
  text_offset : Nat

structure ExtendedEventFragment where
  descriptor_number : UInt8
  last_descriptor_number : UInt8
  language_code : String
  items : List ExtendedEventItemFragment
  text : List UInt8
  text_offset : Nat
  descriptor : RawDescriptor

variable (fragment : ExtendedEventFragment)

/-- The items of a fragment up to the cursor, or the message of what is wrong with one. -/
abbrev ItemsTurn := Nat × List ExtendedEventItemFragment ⊕
  Except (Option (Nat × String)) (List ExtendedEventItemFragment)

/-- A turn of the loop over the items: a description and a text, each behind its length. -/
def extended_item_turn (items_end : Nat) (s : Nat × List ExtendedEventItemFragment) :
    Run ItemsTurn := do
  let (cursor, items) := s
  if items_end ≤ cursor then return .inr (.ok items)
  if items_end < cursor + 1 then
    return .inr (.error (some (items_end - cursor,
      "extended_event_descriptorの項目説明長が途中で切れています")))
  let desc_start := cursor + 1
  let some desc_end := checked_add USIZE_MAX desc_start (← index d.body cursor).toNat
    | return .inr (.error none)
  if items_end ≤ desc_end then
    return .inr (.error (some (items_end - desc_start,
      "extended_event_descriptorの項目説明長が項目領域を超えています")))
  let item_start := desc_end + 1
  let some item_end := checked_add USIZE_MAX item_start (← index d.body desc_end).toNat
    | return .inr (.error none)
  if items_end < item_end then
    return .inr (.error (some (items_end - item_start,
      "extended_event_descriptorの項目本文長が項目領域を超えています")))
  let item : ExtendedEventItemFragment :=
    { description := ← range d.body desc_start desc_end
      text := ← range d.body item_start item_end
      description_offset := text_offset d.offset desc_start
      text_offset := text_offset d.offset item_start }
  return .inl (item_end, items ++ [item])

/-- The text behind the items, and the whole fragment with it. -/
def extended_event_text (items_end : Nat) (items : List ExtendedEventItemFragment) :
    Run (Option ExtendedEventFragment × EventDescriptors) := do
  let text_start := items_end + 1
  let some text_end := checked_add USIZE_MAX text_start (← index d.body items_end).toNat
    | return (none, out)
  if text_end ≠ d.body.length then
    return (none, out.report d .MalformedLength (d.body.length - text_start)
      "extended_event_descriptorの本文長が実際の本文と一致しません")
  let numbers ← index d.body 0
  return (some
    { descriptor_number := (numbers >>> 4) &&& 0x0f
      last_descriptor_number := numbers &&& 0x0f
      language_code := ascii (← range d.body 1 4)
      items
      text := ← range d.body text_start text_end
      text_offset := text_offset d.offset text_start
      descriptor := d }, out)

def parse_extended_event_fragment : Run (Option ExtendedEventFragment × EventDescriptors) := do
  let len := d.body.length
  if len < 6 then
    return (none, out.report d .MalformedLength len
      "extended_event_descriptorが固定欄より短くなっています")
  if !(← range d.body 1 4).all is_ascii_alphabetic then
    return (none, out.report d .UnsupportedValue len
      "extended_event_descriptorのISO_639_language_codeが不正です")
  let some items_end := checked_add USIZE_MAX 5 (← index d.body 4).toNat
    | return (none, out.report d .MalformedLength len
        "extended_event_descriptorの項目長が上限を超えています")
  if len ≤ items_end then
    return (none, out.report d .MalformedLength (len - 5)
      "extended_event_descriptorの項目長が本文を超えているか本文長バイトがありません")
  match ← loop (extended_item_turn d items_end) (len + 1) (5, []) with
  | .error none => return (none, out)
  | .error (some (remaining, message)) =>
    return (none, out.report d .MalformedLength remaining message)
  | .ok items => extended_event_text out d items_end items

/-- A strict decoding of a text of a fragment. What cannot be decoded is reported. -/
def decode_extended_event_field (decoder : InvocationState) (bytes : List UInt8)
    (fragment : ExtendedEventFragment) (field_kind : String) (field_offset : Nat)
    (out : EventDescriptors) :
    Run (Option String × InvocationState × EventDescriptors) := do
  match ← decode tables decoder bytes with
  | (.ok text, decoder) => return (some text, decoder, out)
  | (.error error, decoder) =>
    let diagnostic ← lossy_diagnostic tables decoder bytes
    return (none, decoder, out.report { fragment.descriptor with tag := 0x4e } .UnsupportedValue
      fragment.descriptor.body.length
      ("extended_event_descriptorの厳密な文字復号に失敗しました language=" ++
        fragment.language_code ++ " descriptor_number=" ++
        toString fragment.descriptor_number.toNat ++ " field=" ++ field_kind ++
        " field_offset=" ++ toString field_offset ++ ": " ++ error.debug ++ "; " ++
        diagnostic.summary))

/-- The item that is put together, and what the fragments before gave. -/
structure ItemState where
  description : String := ""
  text : String := ""
  decoder : Option InvocationState := none
  active : Bool := false
  valid : Bool := true
  texts : List String := []
  previous_descriptor_number : Option UInt8 := none
  previous_fragment_had_item : Bool := false
  out : EventDescriptors

variable (s : ItemState)

/-- The closure `flush_item`. -/
def flush_item (language_code : String) (s : ItemState) : ItemState :=
  let out :=
    if s.active ∧ s.valid ∧ (s.description ≠ "" ∨ s.text ≠ "") then
      { s.out with extended_items :=
          s.out.extended_items ++ [⟨language_code, trim s.description, trim s.text⟩] }
    else s.out
  { s with description := "", text := "", decoder := none, active := false, valid := true, out }

/-- An item without a description goes on with the last item of the fragment before. -/
def continues_previous (fragment : ExtendedEventFragment) (item_index : Nat)
    (item : ExtendedEventItemFragment) : Bool :=
  item_index = 0 && item.description.isEmpty && s.previous_fragment_had_item &&
    ((s.previous_descriptor_number.bind fun number =>
      if number = 0xff then none else some (number + 1)) = some fragment.descriptor_number) &&
    s.active && s.decoder.isSome

/-- A new item, with its description. -/
def begin_item (item : ExtendedEventItemFragment) (s : ItemState) : Run ItemState := do
  let s := { flush_item fragment.language_code s with active := true, decoder := some {} }
  if item.description.isEmpty then return s
  let (description, _, out) ← decode_extended_event_field tables {} item.description fragment
    "itemDescription" item.description_offset s.out
  match description with
  | some description => return { s with description, out }
  | none => return { s with valid := false, out }

def continue_item (item_index : Nat) (item : ExtendedEventItemFragment) (s : ItemState) :
    Run ItemState :=
  if continues_previous s fragment item_index item then pure s
  else begin_item tables fragment item s

def extended_item (indexed : Nat × ExtendedEventItemFragment) : Run ItemState := do
  let (item_index, item) := indexed
  let s ← continue_item tables fragment item_index item s
  match s.decoder with
  | none => return s
  | some decoder =>
    let (text, decoder, out) ← decode_extended_event_field tables decoder item.text fragment
      "itemText" item.text_offset s.out
    match text with
    | some text => return { s with text := s.text ++ text, decoder := some decoder, out }
    | none => return { s with valid := false, decoder := some decoder, out }

def extended_fragment (fragment : ExtendedEventFragment) : Run ItemState := do
  let (text, _, out) ← decode_extended_event_field tables {} fragment.text fragment "text"
    fragment.text_offset s.out
  let texts := match text.map trim with
    | some text => if text = "" then s.texts else s.texts ++ [text]
    | none => s.texts
  let indexed := (List.range fragment.items.length).zip fragment.items
  let s ← indexed.foldlM (extended_item tables fragment) { s with texts, out }
  return { s with
    previous_descriptor_number := some fragment.descriptor_number
    previous_fragment_had_item := !fragment.items.isEmpty }

/-- The fragments of a language are all there, once each, and agree on the last one. -/
def sequence_ok (fragments : List ExtendedEventFragment) (expected_last : UInt8) : Bool :=
  fragments.all (·.last_descriptor_number = expected_last) &&
    expected_last.toNat + 1 = fragments.length &&
    decide (fragments.map (·.descriptor_number)).Nodup &&
    (List.range (expected_last.toNat + 1)).all fun number =>
      (fragments.map (·.descriptor_number)).contains (UInt8.ofNat number)

/-- The fragments of one language, in the order of their numbers. -/
def extended_language (all : List ExtendedEventFragment) (out : EventDescriptors)
    (language_code : String) : Run EventDescriptors := do
  let fragments := (all.filter (·.language_code = language_code)).mergeSort
    fun a b => decide (a.descriptor_number ≤ b.descriptor_number)
  let first ← index fragments 0
  if !sequence_ok fragments first.last_descriptor_number then
    return out.report { first.descriptor with tag := 0x4e } .InvalidSequence
      first.descriptor.body.length
      ("extended_event_descriptorの断片に重複・欠落・last_descriptor_number不一致があります language=" ++
        language_code)
  let s ← fragments.foldlM (extended_fragment tables) { out }
  let s := flush_item language_code s
  let text := "".intercalate s.texts
  return if text = "" then s.out
    else { s.out with extended_texts := s.out.extended_texts ++ [⟨language_code, text⟩] }

/-- The text in the language of the first short event. -/
def extended_description_of : String :=
  match out.short_events.head? with
  | some short =>
    ((out.extended_texts.find? (·.language_code = short.language_code)).map (·.text)).getD ""
  | none =>
    (((out.extended_texts.find? (·.language_code = "jpn")).or out.extended_texts.head?).map
      (·.text)).getD ""

def parse_extended_event_fragments (bodies : List RawDescriptor) (out : EventDescriptors) :
    Run EventDescriptors := do
  let (fragments, out) ← bodies.foldlM (fun (found, out) d => do
    let (fragment, out) ← parse_extended_event_fragment out d
    return (found ++ fragment.toList, out)) ([], out)
  if fragments.isEmpty then return out
  let languages := (fragments.map (·.language_code)).reverse.dedup.reverse
  let out ← languages.foldlM (extended_language tables fragments) out
  return { out with extended_description := extended_description_of out }

/-! ## The other descriptors -/

def content_item (chunk : List UInt8) : Run ContentDescriptorItem := do
  let content ← index chunk 0
  let user ← index chunk 1
  let (level1, level2) := (content >>> 4, content &&& 0x0f)
  return ⟨level1, level2, user >>> 4, user &&& 0x0f, arib_content_to_display_name level1 level2⟩

def parse_content_descriptor : Run EventDescriptors := do
  if d.body.length % 2 ≠ 0 then
    return out.report d .MalformedLength d.body.length
      "content_descriptorの末尾に余剰バイトがあります"
  let contents ← (chunks_exact d.body 2).mapM content_item
  return { out with contents := out.contents ++ contents }

/-- A descriptor with its text, or the status of what is wrong with it. -/
abbrev Parsed (α : Type) := Except DescriptorParseStatus α × EventDescriptors

def parse_component_descriptor : Run (Parsed ComponentDescriptor) := do
  if d.body.length < 6 then return (.error .MalformedLength, out)
  let stream_content := (← index d.body 0) &&& 0x0f
  let component_type ← index d.body 1
  let component_tag ← index d.body 2
  match validated_language (← range d.body 3 6) with
  | .error status => return (.error status, out)
  | .ok language_code =>
    let (text, out) ← decode_descriptor_text_lossy tables (← range d.body 6 d.body.length) out d
      "text" (saturating_add USIZE_MAX d.offset 8)
    return (.ok ⟨stream_content, component_type, component_tag, language_code, trim text⟩, out)

/-- The fixed fields and the text of an audio component, once its languages are known. -/
def read_audio_component (flags : UInt8) (language_code : String) (language_code_2 : Option String)
    (cursor : Nat) : Run (Parsed AudioComponentDescriptor) := do
  let stream_content := (← index d.body 0) &&& 0x0f
  let component_type ← index d.body 1
  let component_tag ← index d.body 2
  let stream_type ← index d.body 3
  let simulcast_group_tag ← index d.body 4
  let (text, out) ← decode_descriptor_text_lossy tables (d.body.drop cursor) out d "text"
    (text_offset d.offset cursor)
  return (.ok
    { stream_content, component_type, component_tag, stream_type, simulcast_group_tag
      es_multi_lingual_flag := (flags &&& 0x80) != 0
      main_component_flag := (flags &&& 0x40) != 0
      quality_indicator := (flags >>> 4) &&& 0x03
      sampling_rate := (flags >>> 1) &&& 0x07
      language_code, language_code_2
      text := trim text }, out)

def second_language_of (second_language : Bool) :
    Run (Except DescriptorParseStatus (Option String)) :=
  if second_language then do return (validated_language (← range body 9 12)).map some
  else pure (.ok none)

def parse_audio_component_descriptor : Run (Parsed AudioComponentDescriptor) := do
  if d.body.length < 9 then return (.error .MalformedLength, out)
  let flags ← index d.body 5
  let second_language := (flags &&& 0x80) != 0
  if second_language ∧ d.body.length < 12 then return (.error .MalformedLength, out)
  -- the second language is checked before the first
  match ← second_language_of d.body second_language with
  | .error status => return (.error status, out)
  | .ok language_code_2 =>
    match validated_language (← range d.body 6 9) with
    | .error status => return (.error status, out)
    | .ok language_code =>
      read_audio_component tables out d flags language_code language_code_2
        (if second_language then 12 else 9)

def parental_rating (chunk : List UInt8) : Run ParentalRating := do
  return ⟨ascii (← range chunk 0 3), ← index chunk 3⟩

def parse_parental_rating_descriptor : Run (ParentalRatingDescriptor × EventDescriptors) := do
  let raw_descriptor_bytes := d.tag :: UInt8.ofNat d.declared_length :: d.body
  if d.body.length % 4 ≠ 0 then
    return (⟨[], raw_descriptor_bytes, .MalformedLength⟩, out.report d .MalformedLength
      d.body.length "parental_rating_descriptorの本文長が4の倍数ではありません")
  let chunks := chunks_exact d.body 4
  let entries ← chunks.mapM parental_rating
  if chunks.all fun chunk => (chunk.take 3).all is_ascii_alphabetic then
    return (⟨entries, raw_descriptor_bytes, .Ok⟩, out)
  else
    return (⟨entries, raw_descriptor_bytes, .UnsupportedValue⟩, out.report d .UnsupportedValue
      d.body.length "parental_rating_descriptorに未対応の国コードがあります")

def series_name_of : Run (String × EventDescriptors) :=
  if 9 < d.body.length then do
    decode_descriptor_text_lossy tables (← range d.body 9 d.body.length) out d "seriesName"
      (saturating_add USIZE_MAX d.offset 11)
  else pure ("", out)

def parse_series_descriptor : Run (Option SeriesDescriptor × EventDescriptors) := do
  if d.body.length < 9 then return (none, out)
  let series_id ← u16_at d.body 0
  let labels ← index d.body 2
  let expire_date ← u16_at d.body 3
  let episode_number := be12 (← index d.body 5) (← index d.body 6)
  let last_episode_number := be12 (← index d.body 7) (← index d.body 8)
  let (series_name, out) ← series_name_of tables out d
  return (some
    { series_id
      repeat_label := (labels >>> 4) &&& 0x0f
      program_pattern := labels &&& 0x07
      expire_date_valid := (labels &&& 0x08) != 0
      expire_date, episode_number, last_episode_number
      series_name := trim series_name }, out)

/-- The events of the group, so many from the cursor on. -/
def group_events (body : List UInt8) :
    Nat → Nat → Run (Option (List EventGroupReference × Nat))
  | 0, cursor => return some ([], cursor)
  | n + 1, cursor => do
    if body.length < cursor + 4 then return none
    let event := ⟨← u16_at body cursor, ← u16_at body (cursor + 2)⟩
    match ← group_events body n (cursor + 4) with
    | none => return none
    | some (events, cursor) => return some (event :: events, cursor)

def other_network_turn (s : Nat × List OtherNetworkEventGroupReference) :
    Run (Nat × List OtherNetworkEventGroupReference ⊕
      List OtherNetworkEventGroupReference) := do
  let (cursor, events) := s
  if body.length ≤ cursor then return .inr events
  let event : OtherNetworkEventGroupReference :=
    { original_network_id := ← u16_at body cursor
      transport_stream_id := ← u16_at body (cursor + 2)
      service_id := ← u16_at body (cursor + 4)
      event_id := ← u16_at body (cursor + 6) }
  return .inl (cursor + 8, events ++ [event])

def parse_event_group_descriptor : Run (Option EventGroupDescriptor) := do
  if body.isEmpty then return none
  let head ← index body 0
  let group_type := (head >>> 4) &&& 0x0f
  match ← group_events body (head &&& 0x0f).toNat 1 with
  | none => return none
  | some (events, cursor) =>
    if group_type = 0x4 ∨ group_type = 0x5 then
      if (body.length - cursor) % 8 ≠ 0 then return none
      let others ← loop (other_network_turn body) (body.length + 1) (cursor, [])
      return some ⟨group_type, events, others, []⟩
    else return some ⟨group_type, events, [], ← range body cursor body.length⟩

/-- A unit of a component group: its header and its tags. -/
def component_unit (s : Nat × List UInt8) : Option (Nat × List UInt8) := do
  let (cursor, tags) := s
  let ca_header ← body[cursor]?
  let stop ← checked_add USIZE_MAX (cursor + 1) (ca_header &&& 0x0f).toNat
  if body.length < stop then none
  else some (stop, tags ++ (body.take stop).drop (cursor + 1))

def component_group (total_bit_rate_flag : Bool) (s : Nat × List ComponentGroup) :
    Option (Nat × List ComponentGroup) := do
  let (cursor, groups) := s
  let group_header ← body[cursor]?
  let (cursor, component_tags) ← (List.range (group_header &&& 0x0f).toNat).foldlM
    (fun s _ => component_unit body s) (cursor + 1, [])
  let cursor ← if total_bit_rate_flag then body[cursor]?.map fun _ => cursor + 1 else some cursor
  let text_length ← body[cursor]?
  let cursor ← checked_add USIZE_MAX (cursor + 1) text_length.toNat
  if body.length < cursor then none
  else some (cursor, groups ++ [⟨(group_header >>> 4) &&& 0x0f, component_tags⟩])

def parse_component_group_descriptor : Option ComponentGroupDescriptor := do
  let first ← body.head?
  let (cursor, groups) ← (List.range (first &&& 0x0f).toNat).foldlM
    (fun s _ => component_group body ((first &&& 0x10) != 0) s) (1, [])
  if cursor ≠ body.length then none else some ⟨(first >>> 5) &&& 0x07, groups⟩

def parse_linkage_descriptor : Run (Option LinkageDescriptor) := do
  if body.length < 7 then return none
  return some
    { transport_stream_id := ← u16_at body 0
      original_network_id := ← u16_at body 2
      service_id := ← u16_at body 4
      linkage_type := ← index body 6
      private_data := ← range body 7 body.length }

/-! ## The loop -/

/-- A descriptor that is kept, or reported when it could not be read. -/
def keep {α : Type} (d : RawDescriptor) (message : String)
    (push : EventDescriptors → α → EventDescriptors) (parsed : Parsed α) : EventDescriptors :=
  match parsed with
  | (.ok value, out) => push out value
  | (.error status, out) => out.report d status d.body.length message

/-- A parser that says no more than that a descriptor is malformed. -/
def or_malformed {α : Type} (value : Option α) : Except DescriptorParseStatus α :=
  match value with
  | some value => .ok value
  | none => .error .MalformedLength

structure DescriptorState where
  cursor : Nat := 0
  out : EventDescriptors := {}
  extended_event_bodies : List RawDescriptor := []

/-- The descriptors other than the fragments of an extended event. -/
def parse_descriptor : Run EventDescriptors := do
  if d.tag = 0x4d then parse_short_event tables out d
  else if d.tag = 0x54 then parse_content_descriptor out d
  else if d.tag = 0x50 then
    return keep d "component_descriptorの固定欄またはISO 639言語が不正です"
      (fun out v => { out with components := out.components ++ [v] })
      (← parse_component_descriptor tables out d)
  else if d.tag = 0xc4 then
    return keep d "audio_component_descriptorの固定欄またはISO 639言語が不正です"
      (fun out v => { out with audio_components := out.audio_components ++ [v] })
      (← parse_audio_component_descriptor tables out d)
  else if d.tag = 0x55 then
    let (descriptor, out) ← parse_parental_rating_descriptor out d
    let out := if descriptor.parse_status = .Ok then
        { out with parental_ratings := out.parental_ratings ++ descriptor.entries }
      else out
    return { out with
      parental_rating_descriptors := out.parental_rating_descriptors ++ [descriptor] }
  else if d.tag = 0xd5 then
    let (series, out) ← parse_series_descriptor tables out d
    return keep d "series_descriptorが9バイトの固定欄より短くなっています"
      (fun out v => { out with series := out.series ++ [v] }) (or_malformed series, out)
  else if d.tag = 0xd6 then
    return keep d "event_group_descriptorの構造が不正です"
      (fun out v => { out with event_groups := out.event_groups ++ [v] })
      (or_malformed (← parse_event_group_descriptor d.body), out)
  else if d.tag = 0xd9 then
    return keep d "component_group_descriptorの構造が不正です"
      (fun out v => { out with component_groups := out.component_groups ++ [v] })
      (or_malformed (parse_component_group_descriptor d.body), out)
  else if d.tag = 0x4a then
    return keep d "linkage_descriptorが固定欄より短くなっています"
      (fun out v => { out with linkages := out.linkages ++ [v] })
      (or_malformed (← parse_linkage_descriptor d.body), out)
  else
    return { out with unknown := out.unknown ++ [(d.tag, d.body)] }.report d .UnsupportedValue
      d.body.length "未知の記述子を診断用の事実として保持しています"

/-- A parental rating that the end of the loop cuts is kept as it is. -/
def keep_truncated_rating (tag : UInt8) (rest : List UInt8) : EventDescriptors :=
  if tag = 0x55 then
    { out with parental_rating_descriptors :=
        out.parental_rating_descriptors ++ [⟨[], rest, .TruncatedDescriptor⟩] }
  else out

def descriptor_turn (s : DescriptorState) : Run (DescriptorState ⊕ DescriptorState) := do
  let len := bytes.length
  if len ≤ s.cursor then return .inr s
  let rest ← range bytes s.cursor len
  if len < s.cursor + 2 then
    return .inr { s with out := s.out.diagnose (descriptor_diagnostic .TruncatedDescriptor 0xff
      s.cursor 0 (len - s.cursor) rest "記述子ヘッダーが途中で切れています") }
  let tag ← index bytes s.cursor
  let declared_length := (← index bytes (s.cursor + 1)).toNat
  let body_start := s.cursor + 2
  let some body_end := checked_add USIZE_MAX body_start declared_length
    | return .inr { s with out := s.out.diagnose (descriptor_diagnostic .MalformedLength tag
        s.cursor declared_length (len - body_start) rest "記述子長がusizeの範囲を超えています") }
  if len < body_end then
    let out := s.out.diagnose (descriptor_diagnostic .TruncatedDescriptor tag s.cursor
      declared_length (len - body_start) rest
      "記述子本文がイベント記述子ループの範囲を超えています")
    return .inr { s with out := keep_truncated_rating out tag rest }
  let body ← range bytes body_start body_end
  let d : RawDescriptor := { tag, offset := s.cursor, declared_length, body }
  if tag = 0x4e then
    return .inl { s with
      cursor := body_end, extended_event_bodies := s.extended_event_bodies ++ [d] }
  return .inl { s with cursor := body_end, out := ← parse_descriptor tables s.out d }

def parse_event_descriptors : Run EventDescriptors := do
  let s ← loop (descriptor_turn tables bytes) (bytes.length + 1) {}
  parse_extended_event_fragments tables s.extended_event_bodies s.out

end Parsers

end arib_si_engine_rs.descriptors
