import TypingTrainer.Proofs.Raw

namespace TypingTrainer

namespace Token

theorem has_iff {t : Token} {c : Category} : t.has c = true ↔ c ∈ t.categories :=
  List.contains_iff_mem

theorem isBlank_eq_false_iff {t : Token} :
    t.isBlank = false ↔ ∃ c ∈ t.text.toList, Text.isBlank c = false := by
  simp [isBlank, Text.allBlank]

theorem occursIn_iff {part s : List Char} : occursIn part s = true ↔ part <:+: s := by
  induction s with
  | nil => simp [occursIn]
  | cons c s ih =>
      rw [occursIn, Bool.or_eq_true, ih, List.isPrefixOf_iff_prefix, List.infix_cons_iff]

/-- A token that could be the name of a tag: the tokenizer takes it for an identifier, or its text
looks like one. -/
def NameLike (t : Token) : Prop :=
  Category.identifier ∈ t.categories ∨ "identifier".toList <:+: t.kind.toList ∨
    ∃ c cs, t.text.toList = c :: cs ∧ (Text.isLetter c = true ∨ c = '_' ∨ c = '$') ∧
      ∀ d ∈ cs, Text.isLetter d = true ∨ Text.isNumeral d = true ∨ d ∈ ['_', '-', '.', '$']

theorem isNameText_iff {s : List Char} : isNameText s = true ↔
    ∃ c cs, s = c :: cs ∧ (Text.isLetter c = true ∨ c = '_' ∨ c = '$') ∧
      ∀ d ∈ cs, Text.isLetter d = true ∨ Text.isNumeral d = true ∨ d ∈ ['_', '-', '.', '$'] := by
  cases s with
  | nil => simp [isNameText]
  | cons c cs =>
      simp only [isNameText, startsName, continuesName, Bool.and_eq_true, Bool.or_eq_true,
        beq_iff_eq, List.all_eq_true, List.mem_cons, List.not_mem_nil, or_false, or_assoc]
      constructor
      · intro h
        exact ⟨c, cs, rfl, h⟩
      · rintro ⟨d, ds, heq, h⟩
        obtain ⟨rfl, rfl⟩ := List.cons.inj heq
        exact h

theorem isIdentifierLike_iff {t : Token} : t.isIdentifierLike = true ↔ t.NameLike := by
  simp only [isIdentifierLike, Bool.or_eq_true, has_iff, occursIn_iff, isNameText_iff, NameLike,
    or_assoc]

theorem opensTag_iff {t : Token} : t.opensTag = true ↔ t.text = "<" ∨ t.text = "</" := by
  simp [opensTag]

theorem closesTag_iff {t : Token} : t.closesTag = true ↔ t.text = ">" ∨ t.text = "/>" := by
  simp [closesTag]

theorem interruptsTag_eq_false_iff {t : Token} :
    t.interruptsTag = false ↔ t.text ≠ "<" ∧ t.text ≠ "\x7b" := by
  simp [interruptsTag]

end Token

namespace Filter

variable {rules : Rules} {tokens rest more : List Token} {before : Option Token} {t : Token}

def before? (tokens : List Token) : Nat → Option Token
  | 0 => none
  | k + 1 => tokens[k]?

theorem getElem?_flagFrom (rules : Rules) (before : Option Token) (tokens : List Token) (k : Nat) :
    (flagFrom rules before tokens)[k]? = tokens[k]?.map fun t =>
      { t with
        typeable :=
          decides rules (if k = 0 then before else before? tokens k) t (tokens.drop (k + 1)) } := by
  induction tokens generalizing before k with
  | nil => rfl
  | cons t rest ih =>
      cases k with
      | zero => rfl
      | succ k =>
          rw [flagFrom, List.getElem?_cons_succ, ih (some t) k]
          cases k <;> rfl

theorem getElem?_flag (rules : Rules) (tokens : List Token) (k : Nat) :
    (flag rules tokens)[k]? = tokens[k]?.map fun t =>
      { t with typeable := decides rules (before? tokens k) t (tokens.drop (k + 1)) } := by
  rw [flag, getElem?_flagFrom]
  cases k <;> rfl

def endsScan (t : Token) : Bool := [">", "/>", "<", "\x7b"].contains t.text

theorem endsScan_eq (t : Token) : endsScan t = (t.closesTag || t.interruptsTag) := by
  simp [endsScan, Token.closesTag, Token.interruptsTag, Bool.or_assoc, Bool.beq_eq_decide_eq]

def scanned (tokens : List Token) : List Token := tokens.take (tokens.findIdx endsScan + 1)

theorem tagCloses_scanned (tokens : List Token) :
    tagCloses (scanned tokens) = tagCloses tokens := by
  induction tokens with
  | nil => rfl
  | cons t rest ih =>
      rw [scanned, List.findIdx_cons]
      -- the scan goes on only where the token neither closes a tag nor interrupts one
      cases hcloses : t.closesTag with
      | true => simp [endsScan_eq, hcloses, tagCloses]
      | false =>
          cases hinterrupts : t.interruptsTag with
          | true => simp [endsScan_eq, hcloses, hinterrupts, tagCloses]
          | false =>
              rw [scanned] at ih
              simp [endsScan_eq, hcloses, hinterrupts, tagCloses, ih]

theorem decides_congr (h : scanned rest = scanned more) :
    decides rules before t rest = decides rules before t more := by
  rw [decides, decides, isTagName, isTagName, ← tagCloses_scanned rest, h, tagCloses_scanned]

theorem tagCloses_iff : tagCloses tokens = true ↔
    ∃ (j : Nat) (u : Token), tokens[j]? = some u ∧ u.closesTag = true ∧
      ∀ i < j, ∀ v : Token, tokens[i]? = some v → v.interruptsTag = false := by
  induction tokens with
  | nil => simp [tagCloses]
  | cons t rest ih =>
      rw [tagCloses, Bool.or_eq_true, Bool.and_eq_true, Bool.not_eq_true', ih]
      constructor
      · rintro (h | ⟨ht, j, u, hu, hcloses, hfree⟩)
        · exact ⟨0, t, rfl, h, fun i hi => absurd hi (Nat.not_lt_zero i)⟩
        · refine ⟨j + 1, u, hu, hcloses, fun i hi v hv => ?_⟩
          cases i with
          | zero => exact Option.some.inj hv ▸ ht
          | succ i => exact hfree i (Nat.lt_of_succ_lt_succ hi) v hv
      · rintro ⟨j, u, hu, hcloses, hfree⟩
        cases j with
        | zero => exact .inl (Option.some.inj hu ▸ hcloses)
        | succ j =>
            refine .inr ⟨hfree 0 (Nat.succ_pos j) t rfl, j, u, hu, hcloses, fun i hi v hv => ?_⟩
            exact hfree (i + 1) (Nat.succ_lt_succ hi) v hv

/-- The token at `k` stands in a tag that ends behind it, before another one or a brace begins. -/
def TagEnds (tokens : List Token) (k : Nat) : Prop :=
  ∃ (j : Nat) (u : Token), k < j ∧ tokens[j]? = some u ∧ (u.text = ">" ∨ u.text = "/>") ∧
    ∀ (i : Nat) (v : Token), k < i → i < j → tokens[i]? = some v →
      v.text ≠ "<" ∧ v.text ≠ "\x7b"

theorem tagCloses_drop_iff (tokens : List Token) (k : Nat) :
    tagCloses (tokens.drop (k + 1)) = true ↔ TagEnds tokens k := by
  simp only [tagCloses_iff, List.getElem?_drop, Token.closesTag_iff,
    Token.interruptsTag_eq_false_iff]
  constructor
  · rintro ⟨j, u, hu, hcloses, hfree⟩
    refine ⟨k + 1 + j, u, by omega, hu, hcloses, fun i v hk hi hv => ?_⟩
    obtain ⟨i, rfl⟩ := Nat.exists_eq_add_of_lt hk
    refine hfree i (by omega) v ?_
    rwa [Nat.add_right_comm] at hv
  · rintro ⟨j, u, hj, hu, hcloses, hfree⟩
    obtain ⟨j, rfl⟩ := Nat.exists_eq_add_of_lt hj
    rw [Nat.add_right_comm] at hu
    exact ⟨j, u, hu, hcloses, fun i hi v hv => hfree (k + 1 + i) v (by omega) (by omega) hv⟩

structure TagName (tokens : List Token) (k : Nat) (t : Token) : Prop where
  opened : 0 < k ∧ ∃ b, tokens[k - 1]? = some b ∧ (b.text = "<" ∨ b.text = "</")
  nameLike : t.NameLike
  ends : TagEnds tokens k

theorem isTagName_iff (tokens : List Token) (k : Nat) (t : Token) :
    isTagName (before? tokens k) t (tokens.drop (k + 1)) = true ↔ TagName tokens k t := by
  rw [isTagName, Bool.and_eq_true, Bool.and_eq_true, Token.isIdentifierLike_iff,
    tagCloses_drop_iff]
  constructor
  · rintro ⟨⟨hopened, hname⟩, hends⟩
    obtain ⟨b, hb, hopens⟩ := (Option.any_eq_true _ _).1 hopened
    cases k with
    | zero => cases hb
    | succ k => exact ⟨⟨Nat.succ_pos k, b, hb, Token.opensTag_iff.1 hopens⟩, hname, hends⟩
  · rintro ⟨⟨hk, b, hb, hopens⟩, hname, hends⟩
    obtain ⟨k, rfl⟩ := Nat.exists_eq_succ_of_ne_zero (Nat.ne_of_gt hk)
    exact ⟨⟨(Option.any_eq_true _ _).2 ⟨b, hb, Token.opensTag_iff.2 hopens⟩, hname⟩, hends⟩

/-- What it takes for the token at `k` to be typed. -/
structure Typed (rules : Rules) (tokens : List Token) (k : Nat) (t : Token) : Prop where
  visible : ∃ c ∈ t.text.toList, Text.isBlank c = false
  allowed : t.baseTypeable = true
  wanted : t.text ∈ rules.included ∨ ∀ c ∈ t.categories, c ∉ rules.excluded
  notTagName : ¬ (Category.angleBracket ∈ rules.excluded ∧ TagName tokens k t)

theorem excludes_iff {c : Category} : rules.excludes c = true ↔ c ∈ rules.excluded :=
  List.contains_iff_mem

theorem includesText_iff {text : String} :
    rules.includesText text = true ↔ text ∈ rules.included :=
  List.contains_iff_mem

theorem any_excludes_eq_false_iff :
    t.categories.toList.any rules.excludes = false ↔ ∀ c ∈ t.categories, c ∉ rules.excluded := by
  simp only [List.any_eq_false, excludes_iff]
  rfl

theorem decides_iff (rules : Rules) (tokens : List Token) (k : Nat) (t : Token) :
    decides rules (before? tokens k) t (tokens.drop (k + 1)) = true ↔
      Typed rules tokens k t := by
  simp only [decides, Bool.and_eq_true, Bool.or_eq_true, Bool.not_eq_true',
    Token.isBlank_eq_false_iff, includesText_iff, any_excludes_eq_false_iff]
  rw [← Bool.not_eq_true, Bool.and_eq_true, isTagName_iff, excludes_iff, and_comm (a := TagName ..)]
  constructor
  · rintro ⟨⟨⟨hvisible, hallowed⟩, hname⟩, hwanted⟩
    exact ⟨hvisible, hallowed, hwanted, hname⟩
  · rintro ⟨hvisible, hallowed, hwanted, hname⟩
    exact ⟨⟨⟨hvisible, hallowed⟩, hname⟩, hwanted⟩

end Filter

theorem Line.tokens_filter (l : Line) (preset : Preset) :
    (l.filter preset).tokens = Filter.flag preset.rules l.tokens := rfl

open TypingTrainer.Filter (before? scanned Typed)

/-- The flag of a token is what the rule says. It is the same for every token alike that stands
behind the same token, with the same tokens behind it up to the first `>`, `/>`, `<` or brace. -/
theorem Line.filter_typeable_iff (l : Line) (preset : Preset) (k : Nat) (t : Token)
    (h : l.tokens[k]? = some t) :
    (∃ u, (l.filter preset).tokens[k]? = some u ∧
      (u.typeable = true ↔ Typed preset.rules l.tokens k t)) ∧
    ∀ (m : Line) (j : Nat), m.tokens[j]? = some t → before? m.tokens j = before? l.tokens k →
      scanned (m.tokens.drop (j + 1)) = scanned (l.tokens.drop (k + 1)) →
      (m.filter preset).tokens[j]? = (l.filter preset).tokens[k]? := by
  simp only [Line.tokens_filter, Filter.getElem?_flag, h]
  refine ⟨⟨_, rfl, Filter.decides_iff preset.rules l.tokens k t⟩, ?_⟩
  intro m j hm hbefore hscanned
  rw [hm, hbefore, Option.map_some, Option.map_some, Filter.decides_congr hscanned]

/-- The name of a tag that ends is passed over, the same word behind the tag is not; in a line that
begins and ends in another way the name is passed over as well. -/
theorem Line.filter_typeable_iff_tag :
    let opener := Token.ofText "<" "<" [.angleBracket] 0
    let name := Token.ofText "div" "identifier" [.identifier] 1
    let closer := Token.ofText ">" ">" [.angleBracket] 4
    let l : Line := ⟨0, 0, [opener, name, closer, name], "", ∅⟩
    let m : Line := ⟨1, 0, [name, opener, name, closer], "", ∅⟩
    ¬ Typed Preset.standard.rules l.tokens 1 name ∧ Typed Preset.standard.rules l.tokens 3 name ∧
      (m.filter .standard).tokens[2]? = (l.filter .standard).tokens[1]? := by
  intro opener name closer l m
  obtain ⟨⟨u, hu, htag⟩, hsame⟩ := l.filter_typeable_iff .standard 1 name rfl
  obtain ⟨⟨v, hv, hword⟩, -⟩ := l.filter_typeable_iff .standard 3 name rfl
  have hflags : (l.filter .standard).tokens.map Token.typeable = [false, false, false, true] := by
    decide +kernel
  have hu' : u.typeable = false := by
    have hflag := congrArg (·[1]?) hflags
    simpa [hu] using hflag
  have hv' : v.typeable = true := by
    have hflag := congrArg (·[3]?) hflags
    simpa [hv] using hflag
  refine ⟨fun htyped => ?_, hword.1 hv', hsame m 2 rfl rfl rfl⟩
  rw [htag.2 htyped] at hu'
  cases hu'

end TypingTrainer
