import TypingTrainer.Proofs.Decoding
import TypingTrainer.Proofs.Entries
import TypingTrainer.Snippet.Json

namespace TypingTrainer

open Json

def Category.Proper (c : Category) : Prop :=
  ∀ tag, c = .other tag → ∀ known ∈ Category.known, known.tag ≠ tag

namespace Category

theorem proper_of_mem_known {c : Category} (h : c ∈ known) : c.Proper := by
  rintro tag rfl
  exact absurd h (by simp [known])

theorem proper_ofTag (tag : String) : (ofTag tag).Proper := by
  unfold ofTag
  cases hfind : known.find? fun c => c.tag == tag with
  | some c => exact proper_of_mem_known (List.mem_of_find?_eq_some hfind)
  | none =>
      intro _ heq c hc htag
      obtain rfl := Category.other.inj heq
      exact List.find?_eq_none.1 hfind c hc (beq_iff_eq.2 htag)

theorem ofTag_tag {c : Category} (h : c.Proper) : ofTag c.tag = c := by
  cases c with
  | other tag =>
      have hfind : known.find? (fun c => c.tag == tag) = none :=
        List.find?_eq_none.2 fun c hc => by simpa using h tag rfl c hc
      rw [Category.tag, ofTag, hfind]
      rfl
  | _ => rfl

end Category

/-- The categories are told apart by their tags, and the columns fit 64 bits. -/
structure Token.Storable (t : Token) : Prop where
  categories : ∀ c ∈ t.categories, c.Proper
  startCol : t.startCol ≤ maxCount
  endCol : t.endCol ≤ maxCount

structure CharPos.Storable (p : CharPos) : Prop where
  token : p.token ≤ maxCount
  column : p.column ≤ maxCount

structure Line.Storable (l : Line) : Prop where
  number : l.number ≤ maxCount
  indent : l.indent ≤ maxCount
  tokens : ∀ t ∈ l.tokens, t.Storable
  charMap : ∀ e ∈ l.charMap.entries, e.1 ≤ maxCount ∧ e.2.Storable

structure Snippet.Storable (s : Snippet) : Prop where
  totalLines : s.totalLines ≤ maxCount
  lines : ∀ l ∈ s.lines, l.Storable

namespace Token

variable {t : Token}

theorem decodeCategories_node (h : ∀ c ∈ t.categories, c.Proper) :
    decodeCategories (Value.arr (t.categories.toList.map fun c => .str c.tag)).node =
      .ok t.categories := by
  have htags := decodeList_map_node (l := t.categories.toList) fun c _ => decodeString_node c.tag
  have hcategories : (t.categories.toList.map Category.tag).map Category.ofTag =
      t.categories.toList := by
    rw [List.map_map]
    exact (List.map_congr_left fun c hc => Category.ofTag_tag (h c hc)).trans (List.map_id _)
  simp only [decodeCategories, htags, hcategories, bind, Except.bind, SortedSet.ofList_toList]
  rfl

theorem decode_toJson (h : t.Storable) : decode t.toJson.node = .ok t :=
  decodeRecord_node (.cons rfl rfl (RecordField.fill_of (decodeString_node _)) <|
    .cons rfl rfl (RecordField.fill_of (decodeString_node _)) <|
    .cons rfl rfl (RecordField.fill_of (decodeCategories_node h.categories)) <|
    .cons rfl rfl (RecordField.fill_of rfl) <|
    .cons rfl rfl (RecordField.fill_of rfl) <|
    .cons rfl rfl (RecordField.fill_of (decodeCount_node h.startCol)) <|
    .cons rfl rfl (RecordField.fill_of (decodeCount_node h.endCol)) <| .nil _) rfl

end Token

theorem CharPos.decode_toJson {p : CharPos} (h : p.Storable) : decode p.toJson.node = .ok p :=
  decodeRecord_node (.cons rfl rfl (RecordField.fill_of (decodeCount_node h.token)) <|
    .cons rfl rfl (RecordField.fill_of (decodeCount_node h.column)) <| .nil _) rfl

namespace Line

variable {l : Line}

theorem decodeCharMap_node (h : ∀ e ∈ l.charMap.entries, e.1 ≤ maxCount ∧ e.2.Storable) :
    decodeCharMap (Value.obj (l.charMap.entries.map fun e => (toString e.1, e.2.toJson))).node =
      .ok l.charMap := by
  have hentries : decodeCountMap CharPos.decode
      (Value.obj (l.charMap.entries.map fun e => (toString e.1, e.2.toJson))).node =
        .ok l.charMap.entries :=
    decodeCountMap_node (fun e he => (h e he).1) fun e he => CharPos.decode_toJson (h e he).2
  simp only [decodeCharMap, hentries, bind, Except.bind, SortedMap.ofList_entries]
  rfl

theorem decode_toJson (h : l.Storable) : decode l.toJson.node = .ok l :=
  decodeRecord_node (.cons rfl rfl (RecordField.fill_of (decodeCount_node h.number)) <|
    .cons rfl rfl (RecordField.fill_of (decodeCount_node h.indent)) <|
    .cons rfl rfl (RecordField.fill_of
      (decodeList_node fun t ht => Token.decode_toJson (h.tokens t ht))) <|
    .cons rfl rfl (RecordField.fill_of (decodeString_node _)) <|
    .cons rfl rfl (RecordField.fill_of (decodeCharMap_node h.charMap)) <| .nil _) rfl

end Line

theorem Snippet.decode_toJson {s : Snippet} (h : s.Storable) : decode s.toJson.node = .ok s :=
  decodeRecord_node (.cons rfl rfl (RecordField.fill_of
      (decodeName_node (Language.ofName?_name s.language))) <|
    .cons rfl rfl (RecordField.fill_of (decodeCount_node h.totalLines)) <|
    .cons rfl rfl (RecordField.fill_of
      (decodeList_node fun l hl => Line.decode_toJson (h.lines l hl))) <| .nil _) rfl

namespace Token

theorem proper_of_decodeCategories {node : Node} {categories : SortedSet Category}
    (h : decodeCategories node = .ok categories) : ∀ c ∈ categories, c.Proper := by
  obtain ⟨tags, -, heq⟩ := of_bind_ok h
  obtain rfl := Except.ok.inj heq
  intro c hc
  have hmem := (SortedSet.mem_insertMany.1 hc).resolve_left (SortedSet.not_mem_empty c)
  obtain ⟨tag, -, rfl⟩ := List.mem_map.1 hmem
  exact Category.proper_ofTag tag

structure Draft.Storable (d : Draft) : Prop where
  categories : ∀ s ∈ d.categories, ∀ c ∈ s, c.Proper
  startCol : ∀ n ∈ d.startCol, n ≤ maxCount
  endCol : ∀ n ∈ d.endCol, n ≤ maxCount

theorem Draft.storable_empty : Draft.Storable {} :=
  ⟨fun _ h => (nomatch h), fun _ h => (nomatch h), fun _ h => (nomatch h)⟩

theorem Draft.keeps_storable : Keeps fields Draft.Storable := by
  refine .cons (fun d node d₁ hd h => ?text) <| .cons (fun d node d₁ hd h => ?kind) <|
    .cons (fun d node d₁ hd h => ?categories) <| .cons (fun d node d₁ hd h => ?baseTypeable) <|
    .cons (fun d node d₁ hd h => ?typeable) <| .cons (fun d node d₁ hd h => ?startCol) <|
    .cons (fun d node d₁ hd h => ?endCol) .nil
  all_goals obtain ⟨a, ha, rfl⟩ := RecordField.of_fill h
  -- the condition looks at three of the seven fields
  case categories =>
    refine ⟨fun s hs => ?_, hd.startCol, hd.endCol⟩
    exact Option.some.inj hs ▸ proper_of_decodeCategories ha
  case startCol =>
    exact ⟨hd.categories, fun n hn => Option.some.inj hn ▸ decodeCount_le ha, hd.endCol⟩
  case endCol =>
    exact ⟨hd.categories, hd.startCol, fun n hn => Option.some.inj hn ▸ decodeCount_le ha⟩
  all_goals exact ⟨hd.categories, hd.startCol, hd.endCol⟩

theorem Draft.Storable.finish {d : Draft} {t : Token} (hd : d.Storable)
    (h : d.finish? = some t) : t.Storable := by
  simp only [Draft.finish?, Option.bind_eq_bind, Option.bind_eq_some_iff, Option.pure_def,
    Option.some.injEq] at h
  obtain ⟨_, -, _, -, _, -, startCol, hstart, endCol, hend, rfl⟩ := h
  refine ⟨?_, hd.startCol _ hstart, hd.endCol _ hend⟩
  cases hcategories : d.categories with
  | none => exact fun c hc => absurd hc (SortedSet.not_mem_empty c)
  | some s => exact hd.categories s hcategories

theorem storable_of_decode {node : Node} {t : Token} (h : decode node = .ok t) : t.Storable := by
  obtain ⟨d, hd, hfinish⟩ := Draft.keeps_storable.decodeRecord Draft.storable_empty h
  exact hd.finish hfinish

end Token

namespace CharPos

structure Draft.Storable (d : Draft) : Prop where
  token : ∀ n ∈ d.token, n ≤ maxCount
  column : ∀ n ∈ d.column, n ≤ maxCount

theorem Draft.storable_empty : Draft.Storable {} := ⟨fun _ h => (nomatch h), fun _ h => (nomatch h)⟩

theorem Draft.keeps_storable : Keeps fields Draft.Storable := by
  refine .cons (fun d node d₁ hd h => ?token) <| .cons (fun d node d₁ hd h => ?column) .nil
  all_goals obtain ⟨a, ha, rfl⟩ := RecordField.of_fill h
  case token => exact ⟨fun n hn => Option.some.inj hn ▸ decodeCount_le ha, hd.column⟩
  case column => exact ⟨hd.token, fun n hn => Option.some.inj hn ▸ decodeCount_le ha⟩

theorem storable_of_decode {node : Node} {p : CharPos} (h : decode node = .ok p) :
    p.Storable := by
  obtain ⟨d, hd, hfinish⟩ := Draft.keeps_storable.decodeRecord Draft.storable_empty h
  simp only [Draft.finish?, Option.bind_eq_bind, Option.bind_eq_some_iff, Option.pure_def,
    Option.some.injEq] at hfinish
  obtain ⟨token, htoken, column, hcolumn, rfl⟩ := hfinish
  exact ⟨hd.token _ htoken, hd.column _ hcolumn⟩

end CharPos

namespace Line

theorem storable_of_decodeCharMap {node : Node} {charMap : SortedMap Nat CharPos}
    (h : decodeCharMap node = .ok charMap) :
    ∀ e ∈ charMap.entries, e.1 ≤ maxCount ∧ e.2.Storable := by
  obtain ⟨entries, hentries, heq⟩ := of_bind_ok h
  obtain rfl := Except.ok.inj heq
  exact fun e he => decodeCountMap_yields (fun _ _ => CharPos.storable_of_decode) hentries e
    (SortedMap.mem_ofList he)

structure Draft.Storable (d : Draft) : Prop where
  number : ∀ n ∈ d.number, n ≤ maxCount
  indent : ∀ n ∈ d.indent, n ≤ maxCount
  tokens : ∀ ts ∈ d.tokens, ∀ t ∈ ts, t.Storable
  charMap : ∀ m ∈ d.charMap, ∀ e ∈ m.entries, e.1 ≤ maxCount ∧ e.2.Storable

theorem Draft.storable_empty : Draft.Storable {} :=
  ⟨fun _ h => (nomatch h), fun _ h => (nomatch h), fun _ h => (nomatch h), fun _ h => (nomatch h)⟩

theorem Draft.keeps_storable : Keeps fields Draft.Storable := by
  refine .cons (fun d node d₁ hd h => ?number) <| .cons (fun d node d₁ hd h => ?indent) <|
    .cons (fun d node d₁ hd h => ?tokens) <| .cons (fun d node d₁ hd h => ?sequence) <|
    .cons (fun d node d₁ hd h => ?charMap) .nil
  all_goals obtain ⟨a, ha, rfl⟩ := RecordField.of_fill h
  case number =>
    exact ⟨fun n hn => Option.some.inj hn ▸ decodeCount_le ha, hd.indent, hd.tokens, hd.charMap⟩
  case indent =>
    exact ⟨hd.number, fun n hn => Option.some.inj hn ▸ decodeCount_le ha, hd.tokens, hd.charMap⟩
  case tokens =>
    refine ⟨hd.number, hd.indent, fun ts hts => ?_, hd.charMap⟩
    exact Option.some.inj hts ▸ decodeList_yields (fun _ _ => Token.storable_of_decode) ha
  case sequence => exact ⟨hd.number, hd.indent, hd.tokens, hd.charMap⟩
  case charMap =>
    refine ⟨hd.number, hd.indent, hd.tokens, fun m hm => ?_⟩
    exact Option.some.inj hm ▸ storable_of_decodeCharMap ha

theorem storable_of_decode {node : Node} {l : Line} (h : decode node = .ok l) : l.Storable := by
  obtain ⟨d, hd, hfinish⟩ := Draft.keeps_storable.decodeRecord Draft.storable_empty h
  simp only [Draft.finish?, Option.bind_eq_bind, Option.bind_eq_some_iff, Option.pure_def,
    Option.some.injEq] at hfinish
  obtain ⟨number, hnumber, indent, hindent, tokens, htokens, rfl⟩ := hfinish
  refine ⟨hd.number _ hnumber, hd.indent _ hindent, hd.tokens _ htokens, ?_⟩
  cases hmap : d.charMap with
  | none => exact fun e he => nomatch he
  | some m => exact hd.charMap m hmap

end Line

namespace Snippet

structure Draft.Storable (d : Draft) : Prop where
  totalLines : ∀ n ∈ d.totalLines, n ≤ maxCount
  lines : ∀ ls ∈ d.lines, ∀ l ∈ ls, l.Storable

theorem Draft.storable_empty : Draft.Storable {} := ⟨fun _ h => (nomatch h), fun _ h => (nomatch h)⟩

theorem Draft.keeps_storable : Keeps fields Draft.Storable := by
  refine .cons (fun d node d₁ hd h => ?language) <| .cons (fun d node d₁ hd h => ?totalLines) <|
    .cons (fun d node d₁ hd h => ?lines) .nil
  all_goals obtain ⟨a, ha, rfl⟩ := RecordField.of_fill h
  case language => exact ⟨hd.totalLines, hd.lines⟩
  case totalLines => exact ⟨fun n hn => Option.some.inj hn ▸ decodeCount_le ha, hd.lines⟩
  case lines =>
    refine ⟨hd.totalLines, fun ls hls => ?_⟩
    exact Option.some.inj hls ▸ decodeList_yields (fun _ _ => Line.storable_of_decode) ha

theorem storable_of_decode {node : Node} {s : Snippet} (h : decode node = .ok s) :
    s.Storable := by
  obtain ⟨d, hd, hfinish⟩ := Draft.keeps_storable.decodeRecord Draft.storable_empty h
  simp only [Draft.finish?, Option.bind_eq_bind, Option.bind_eq_some_iff, Option.pure_def,
    Option.some.injEq] at hfinish
  obtain ⟨language, -, totalLines, htotal, lines, hlines, rfl⟩ := hfinish
  exact ⟨hd.totalLines _ htotal, hd.lines _ hlines⟩

variable {reader : List Symbol → Read}

theorem storable_of_ofText {text : String} {s : Snippet} (h : ofText text reader = .ok s) :
    s.Storable := by
  obtain ⟨a, ha, h⟩ := of_bind_ok h
  split at h
  · obtain rfl := Except.ok.inj h
    exact storable_of_decode ha
  · exact nomatch h

theorem ofText_write_iff {write : Value → String} (h : Faithful write reader) (s : Snippet) :
    ofText (write s.toJson) reader = .ok s ↔ s.Storable := by
  refine ⟨storable_of_ofText, fun hs => ?_⟩
  exact (decodeText_write h s.toJson).trans (decode_toJson hs)

/-- A snippet is read back from what is written of it just if it can be stored. What is read from
any text can be stored, and its tags stand for themselves. -/
theorem ofText_text (layout : Layout) (hl : layout.Blank) :
    (∀ s : Snippet, ofText (s.text layout) = .ok s ↔ s.Storable) ∧
    (∀ (text : String) (s : Snippet), ofText text = .ok s → s.Storable) ∧
    ∀ tag : String, (Category.ofTag tag).tag = tag := by
  exact ⟨ofText_write_iff (faithful_text hl), fun _ _ => storable_of_ofText, Category.tag_ofTag⟩

def tagged : Snippet where
  language := .python
  totalLines := 1
  lines := [⟨7, 1, [.ofText "(" "op" [.parenthesis, .other "rainbow"] 4], "(",
    SortedMap.ofList [(0, ⟨0, 4⟩)]⟩]

theorem ofText_text_tagged : tagged.Storable ∧
    (Layout.compact.Blank ∧ ofText (tagged.text .compact) = .ok tagged) ∧
    Layout.pretty.Blank ∧ ofText (tagged.text .pretty) = .ok tagged := by
  have hstorable : tagged.Storable := by
    refine ⟨by decide, List.forall_mem_singleton.2 ⟨by decide, by decide, ?tokens, ?charMap⟩⟩
    case tokens =>
      refine List.forall_mem_singleton.2 ⟨fun c hc => ?_, by decide, by decide⟩
      have hmem : c ∈ [Category.parenthesis, .other "rainbow"] :=
        (SortedSet.mem_insertMany.1 hc).resolve_left (SortedSet.not_mem_empty c)
      obtain rfl | rfl : c = .parenthesis ∨ c = .other "rainbow" := by simpa using hmem
      · exact Category.proper_of_mem_known (by decide)
      · intro tag heq
        obtain rfl := Category.other.inj heq
        decide
    case charMap => exact List.forall_mem_singleton.2 ⟨by decide, by decide, by decide⟩
  exact ⟨hstorable,
    ⟨blank_compact, ((ofText_text .compact blank_compact).1 tagged).2 hstorable⟩,
    blank_pretty, ((ofText_text .pretty blank_pretty).1 tagged).2 hstorable⟩

end Snippet

end TypingTrainer
