import TypingTrainer.Proofs.CharMap
import TypingTrainer.Proofs.Entries
import TypingTrainer.View

namespace TypingTrainer.View

open Std (LawfulEqCmp)
open TypingTrainer.Filter (offset sequence typedText Owns)

def Segment.isToken : Segment → Bool
  | padding _ => false
  | token _ => true

def tokenParts (l : Line) (s : Session) : List (List Span) :=
  ((segments l .current s).filter Segment.isToken).map Segment.spans

def IsPadding (spans : List Span) : Prop := spans = [] ∨ ∃ n, spans = (Segment.padding n).spans

def styled (spans : List Span) : List (Char × Style) :=
  spans.flatMap fun span => span.text.toList.map fun c => (c, span.style)

def isCursor (e : Char × Style) : Bool := e.2 == Styles.cursor || e.2 == Styles.cursorError

def cursors (spans : List Span) : List (Char × Style) := (styled spans).filter isCursor

def typedChars (l : Line) (s : Session) : List (Char × Style) :=
  (l.tokens.zip (tokenParts l s)).flatMap fun e => if e.1.typeable then styled e.2 else []

variable {l : Line} {preset : Preset} {s : Session} {status : Status} {t : Token} {k : Nat}

theorem styled_append (a b : List Span) : styled (a ++ b) = styled a ++ styled b :=
  List.flatMap_append

theorem cursors_append (a b : List Span) : cursors (a ++ b) = cursors a ++ cursors b := by
  rw [cursors, styled_append, List.filter_append]
  rfl

theorem styled_single (text : String) (style : Style) :
    styled [⟨text, style⟩] = text.toList.map fun c => (c, style) :=
  List.flatMap_singleton _ _

theorem tokens_segmentsFrom (starts : SortedMap Nat Nat) (status : Status) (s : Session)
    (column : Nat) (es : List (Token × Nat)) :
    ((segmentsFrom starts status s column es).filter Segment.isToken).map Segment.spans =
      es.map fun e => tokenSpans starts status s e.2 (expandTabs e.1.text.toList) := by
  induction es generalizing column with
  | nil => rfl
  | cons e rest ih =>
      obtain ⟨t, i⟩ := e
      rw [segmentsFrom, List.map_cons, ← ih]
      dsimp only
      split <;> rfl

/-- A row is made of the parts of its tokens, with some padding before each. -/
theorem spans_segmentsFrom (starts : SortedMap Nat Nat) (status : Status) (s : Session)
    (column : Nat) (es : List (Token × Nat)) :
    ∃ pads : List (List Span), pads.length = es.length ∧ (∀ p ∈ pads, IsPadding p) ∧
      (segmentsFrom starts status s column es).flatMap Segment.spans =
        (List.zipWith (· ++ ·) pads (es.map fun e =>
          tokenSpans starts status s e.2 (expandTabs e.1.text.toList))).flatten := by
  induction es generalizing column with
  | nil => exact ⟨[], rfl, by simp, rfl⟩
  | cons e rest ih =>
      obtain ⟨t, i⟩ := e
      obtain ⟨pads, hlength, hpads, hspans⟩ :=
        ih (max column t.startCol + Text.width (expandTabs t.text.toList))
      by_cases hcolumn : column < t.startCol
      · refine ⟨(Segment.padding (t.startCol - column)).spans :: pads, by simp [hlength], ?_, ?_⟩
        · rintro p (_ | ⟨_, hp⟩)
          · exact .inr ⟨_, rfl⟩
          · exact hpads p hp
        · simp [segmentsFrom, hcolumn, hspans, Segment.spans]
      · refine ⟨[] :: pads, by simp [hlength], ?_, ?_⟩
        · rintro p (_ | ⟨_, hp⟩)
          · exact .inl rfl
          · exact hpads p hp
        · simp [segmentsFrom, hcolumn, hspans, Segment.spans]

theorem lineSpans_eq (l : Line) (s : Session) :
    ∃ pads : List (List Span), pads.length = l.tokens.length ∧ (∀ p ∈ pads, IsPadding p) ∧
      lineSpans l .current s =
        gutter l .current :: (List.zipWith (· ++ ·) pads (tokenParts l s)).flatten := by
  obtain ⟨pads, hlength, hpads, hspans⟩ := 
    spans_segmentsFrom (tokenStarts l) .current s 0 l.tokens.zipIdx
  rw [List.length_zipIdx] at hlength
  refine ⟨pads, hlength, hpads, ?_⟩
  rw [lineSpans, segments, hspans, tokenParts, segments, tokens_segmentsFrom]

theorem get?_tokenStarts (l : Line) (k : Nat) : (tokenStarts l).get? k =
    (l.charMap.entries.find? fun e => e.2.token == k).map Prod.fst := by
  have hkey : (fun e : Nat × CharPos => compare k e.2.token == .eq) =
      fun e => e.2.token == k := by
    funext e
    rw [Bool.eq_iff_iff, beq_iff_eq, beq_iff_eq, LawfulEqCmp.compare_eq_iff_eq]
    exact eq_comm
  rw [tokenStarts, SortedMap.get?_ofList, ← List.map_reverse, List.reverse_reverse, List.find?_map,
    Option.map_map, ← hkey]
  rfl

theorem get?_tokenStarts_filter (l : Line) (preset : Preset) (k : Nat) :
    (tokenStarts (l.filter preset)).get? k =
      (Filter.origins (l.filter preset).tokens).findIdx? fun pos => pos.token == k := by
  have hentries : (l.filter preset).charMap.entries =
      (Filter.origins (l.filter preset).tokens).zipIdx.map fun e => (e.2, e.1) := rfl
  rw [get?_tokenStarts, hentries, List.find?_map, Option.map_map,
    List.findIdx?_eq_fst_find?_zipIdx]
  rfl

theorem get?_tokenStarts_filter_iff {start : Nat} :
    (tokenStarts (l.filter preset)).get? k = some start ↔
      ((l.filter preset).charMap.get? start).map CharPos.token = some k ∧
        ∀ i < start, ((l.filter preset).charMap.get? i).map CharPos.token ≠ some k := by
  simp only [get?_tokenStarts_filter, Line.get?_filter, List.findIdx?_eq_some_iff_getElem]
  constructor
  · rintro ⟨hlt, hk, hfirst⟩
    refine ⟨by simpa [List.getElem?_eq_getElem hlt] using hk, fun i hi => ?_⟩
    simpa [List.getElem?_eq_getElem (Nat.lt_trans hi hlt)] using hfirst i hi
  · rintro ⟨hk, hfirst⟩
    obtain ⟨pos, hpos, rfl⟩ := Option.map_eq_some_iff.1 hk
    obtain ⟨hlt, rfl⟩ := List.getElem?_eq_some_iff.1 hpos
    refine ⟨hlt, beq_self_eq_true _, fun i hi => ?_⟩
    simpa [List.getElem?_eq_getElem (Nat.lt_trans hi hlt)] using hfirst i hi

theorem get?_tokenStarts_of_typeable (ht : (l.filter preset).tokens[k]? = some t)
    (htypeable : t.typeable = true) :
    (tokenStarts (l.filter preset)).get? k = some (offset (l.filter preset).tokens k) := by
  have hpos := Line.length_pos_of_typeable ht htypeable
  rw [get?_tokenStarts_filter_iff, Line.stretch_filter ht htypeable]
  refine ⟨⟨Nat.le_refl _, Nat.lt_add_of_pos_right hpos⟩, fun i hi hmap => ?_⟩
  exact absurd hi (Nat.not_lt.2 ((Line.stretch_filter ht htypeable i).1 hmap).1)

theorem get?_tokenStarts_of_not_typeable (ht : (l.filter preset).tokens[k]? = some t)
    (htypeable : t.typeable = false) : (tokenStarts (l.filter preset)).get? k = none := by
  rw [Option.eq_none_iff_forall_ne_some]
  intro start hstart
  obtain ⟨pos, hpos, rfl⟩ := Option.map_eq_some_iff.1 (get?_tokenStarts_filter_iff.1 hstart).1
  obtain ⟨u, howns, -⟩ := Line.get?_filter_iff.1 hpos
  obtain rfl : t = u := Option.some.inj (ht.symm.trans howns.token)
  exact nomatch htypeable.symm.trans howns.typeable

def partOf (s : Session) (start : Nat) (t : Token) : List Span :=
  if t.typeable then currentSpans s start t.text.toList
  else [⟨String.ofList t.text.toList, Styles.skipped⟩]

theorem expandTabs_of_notMem {cs : List Char} (h : '\t' ∉ cs) : expandTabs cs = cs := by
  induction cs with
  | nil => rfl
  | cons c rest ih =>
      obtain ⟨hc, hrest⟩ := not_or.1 (mt List.mem_cons.2 h)
      rw [expandTabs, List.flatMap_cons, if_neg (Ne.symm hc)]
      exact congrArg (c :: ·) (ih hrest)

theorem tokenParts_filter (htabs : ∀ t ∈ (l.filter preset).tokens, '\t' ∉ t.text.toList) :
    tokenParts (l.filter preset) s = (l.filter preset).tokens.zipIdx.map fun e =>
      partOf s (offset (l.filter preset).tokens e.2) e.1 := by
  rw [tokenParts, segments, tokens_segmentsFrom]
  refine List.map_congr_left fun e he => ?_
  have ht := List.mem_zipIdx_iff_getElem?.1 he
  rw [expandTabs_of_notMem (htabs _ (List.mem_of_getElem? ht))]
  cases htypeable : e.1.typeable with
  | true =>
      simp only [tokenSpans, get?_tokenStarts_of_typeable ht htypeable, partOf, htypeable,
        if_true]
  | false =>
      simp only [tokenSpans, get?_tokenStarts_of_not_typeable ht htypeable, partOf, htypeable,
        Bool.false_eq_true, if_false]

theorem styled_currentSpans (s : Session) (start : Nat) (text : List Char) :
    styled (currentSpans s start text) =
      (text.zipIdx start).map fun e => (e.1, charStyle s e.2) := by
  rw [List.zipIdx_eq_map_add, List.map_map, styled, currentSpans, List.flatMap_map]
  simp [Char.toString_eq_singleton, List.map_eq_flatMap]

theorem styled_partOf (s : Session) (start : Nat) (t : Token) : styled (partOf s start t) =
    if t.typeable then (t.text.toList.zipIdx start).map fun e => (e.1, charStyle s e.2)
    else t.text.toList.map fun c => (c, Styles.skipped) := by
  cases h : t.typeable with
  | true => simp only [partOf, h, if_true, styled_currentSpans]
  | false =>
      simp only [partOf, h, Bool.false_eq_true, if_false, styled_single, String.toList_ofList]

theorem text_partOf (s : Session) (start : Nat) (t : Token) :
    (styled (partOf s start t)).map Prod.fst = t.text.toList := by
  rw [styled_partOf]
  split
  · rw [List.map_map]
    exact List.zipIdx_map_fst ..
  · rw [List.map_map]
    exact List.map_id _

theorem map_typedText (s : Session) (start : Nat) (t : Token) :
    (if t.typeable then styled (partOf s start t) else []) =
      ((typedText t).zipIdx start).map fun e => (e.1, charStyle s e.2) := by
  cases h : t.typeable with
  | true => simp only [styled_partOf, typedText, h, if_true]
  | false => simp [typedText, h]

theorem flatMap_zipIdx_typedText (before tokens : List Token) :
    (tokens.zipIdx before.length).flatMap (fun e =>
        (typedText e.1).zipIdx (offset (before ++ tokens) e.2)) =
      (sequence tokens).zipIdx (sequence before).length := by
  -- the tokens that are done move over to those before, so that each offset is a length
  induction tokens generalizing before with
  | nil => rfl
  | cons t rest ih =>
      have hoffset : offset (before ++ t :: rest) before.length = (sequence before).length := by
        rw [Filter.offset_eq, List.take_left', ← Filter.sequence_eq]
        rfl
      have hrest := ih (before ++ [t])
      rw [List.length_append, List.append_assoc, Filter.sequence_eq (before ++ [t]),
        List.flatMap_append, ← Filter.sequence_eq, List.flatMap_singleton,
        List.length_append] at hrest
      rw [List.zipIdx_cons, List.flatMap_cons, hoffset, Filter.sequence_eq (t :: rest),
        List.flatMap_cons, ← Filter.sequence_eq, List.zipIdx_append]
      exact congrArg _ hrest

theorem flatMap_positions (l : Line) (preset : Preset) :
    ((l.filter preset).tokens.zipIdx.flatMap fun e =>
        (typedText e.1).zipIdx (offset (l.filter preset).tokens e.2)) =
      (l.filter preset).sequence.toList.zipIdx := by
  rw [Line.sequence_filter]
  exact flatMap_zipIdx_typedText [] _

theorem typedChars_filter (htabs : ∀ t ∈ (l.filter preset).tokens, '\t' ∉ t.text.toList) :
    typedChars (l.filter preset) s =
      (l.filter preset).sequence.toList.zipIdx.map fun e => (e.1, charStyle s e.2) := by
  have hzip (f : Token × Nat → List Span) (tokens : List Token) :
      tokens.zip (tokens.zipIdx.map f) = tokens.zipIdx.map fun e => (e.1, f e) := by
    rw [← List.zip_map', List.zipIdx_map_fst]
  rw [typedChars, tokenParts_filter htabs, hzip, List.flatMap_map]
  simp only [map_typedText]
  rw [← List.map_flatMap, flatMap_positions]

theorem filter_zipIdx_eq {α : Type} (xs : List α) (n k : Nat) :
    (xs.zipIdx n).filter (fun e => e.2 == n + k) = (xs[k]?.map fun x => (x, n + k)).toList := by
  induction xs generalizing n k with
  | nil => rfl
  | cons x xs ih =>
      rw [List.zipIdx_cons]
      cases k with
      | zero =>
          have hrest : (xs.zipIdx (n + 1)).filter (fun e => e.2 == n + 0) = [] := by
            refine List.filter_eq_nil_iff.2 fun e he heq => ?_
            have hle := List.le_snd_of_mem_zipIdx he
            rw [beq_iff_eq.1 heq] at hle
            exact absurd hle (Nat.not_succ_le_self n)
          have hx : ((x, n).2 == n + 0) = true := beq_self_eq_true n
          rw [List.filter_cons, if_pos hx, hrest]
          rfl
      | succ k =>
          have hrest := ih (n + 1) k
          rw [Nat.add_assoc, Nat.add_comm 1 k] at hrest
          rw [List.filter_cons, hrest, if_neg (by simp), List.getElem?_cons_succ]

theorem isCursor_charStyle (s : Session) (c : Char) (i : Nat) :
    isCursor (c, charStyle s i) = (i == s.char) := by
  unfold charStyle
  rcases Nat.lt_trichotomy i s.char with hlt | rfl | hgt
  · rw [if_pos hlt, beq_false_of_ne (Nat.ne_of_lt hlt)]
    rfl
  · rw [if_neg (Nat.lt_irrefl _), if_pos rfl, beq_self_eq_true]
    cases s.missed <;> rfl
  · rw [if_neg (Nat.lt_asymm hgt), if_neg (Nat.ne_of_gt hgt), beq_false_of_ne (Nat.ne_of_gt hgt)]
    rfl

theorem cursors_of_style {text : String} {style : Style} (h : isCursor (' ', style) = false) :
    cursors [⟨text, style⟩] = [] := by
  rw [cursors, styled_single]
  refine List.filter_eq_nil_iff.2 fun e he => ?_
  obtain ⟨c, -, rfl⟩ := List.mem_map.1 he
  exact Bool.eq_false_iff.1 h

theorem cursors_of_isPadding {spans : List Span} (h : IsPadding spans) : cursors spans = [] := by
  rcases h with rfl | ⟨n, rfl⟩
  · rfl
  · exact cursors_of_style rfl

theorem cursors_zipWith {pads parts : List (List Span)} (hlength : pads.length = parts.length)
    (hpads : ∀ p ∈ pads, IsPadding p) :
    cursors (List.zipWith (· ++ ·) pads parts).flatten = parts.flatMap cursors := by
  induction pads generalizing parts with
  | nil =>
      obtain rfl := List.length_eq_zero_iff.1 hlength.symm
      rfl
  | cons p pads ih =>
      cases parts with
      | nil => cases hlength
      | cons q parts =>
          obtain ⟨hp, hpads⟩ := List.forall_mem_cons.1 hpads
          rw [List.zipWith_cons_cons, List.flatten_cons, cursors_append, cursors_append,
            cursors_of_isPadding hp, List.nil_append, ih (Nat.succ.inj hlength) hpads,
            List.flatMap_cons]

theorem cursors_partOf (s : Session) (start : Nat) (t : Token) : cursors (partOf s start t) =
    (((typedText t).zipIdx start).map fun e => (e.1, charStyle s e.2)).filter isCursor := by
  rw [← map_typedText]
  cases h : t.typeable with
  | true => rfl
  | false =>
      have hpart : partOf s start t = [⟨String.ofList t.text.toList, Styles.skipped⟩] :=
        if_neg (by simp [h])
      rw [hpart, cursors_of_style rfl]
      rfl

theorem cursors_lineSpans (htabs : ∀ t ∈ (l.filter preset).tokens, '\t' ∉ t.text.toList) :
    cursors (lineSpans (l.filter preset) .current s) =
      (((l.filter preset).expected? s.char).map fun c =>
        (c, if s.missed then Styles.cursorError else Styles.cursor)).toList := by
  obtain ⟨pads, hlength, hpads, hrow⟩ := lineSpans_eq (l.filter preset) s
  have hparts : pads.length = (tokenParts (l.filter preset) s).length := by
    rw [hlength, tokenParts_filter htabs, List.length_map, List.length_zipIdx]
  have hgutter : cursors [gutter (l.filter preset) .current] = [] := cursors_of_style rfl
  have hcursor : isCursor ∘ (fun e : Char × Nat => (e.1, charStyle s e.2)) =
      fun e => e.2 == 0 + s.char := by
    funext e
    rw [Function.comp_apply, isCursor_charStyle, Nat.zero_add]
  rw [hrow, ← List.singleton_append, cursors_append, hgutter, List.nil_append,
    cursors_zipWith hparts hpads, tokenParts_filter htabs, List.flatMap_map]
  simp only [cursors_partOf]
  rw [← List.filter_flatMap, ← List.map_flatMap, flatMap_positions, List.filter_map,
    hcursor, filter_zipIdx_eq, Nat.zero_add]
  cases h : (l.filter preset).sequence.toList[s.char]? with
  | none => simp [Line.expected?, h]
  | some c => simp [Line.expected?, h, charStyle]

structure Drawn (l : Line) (s : Session) : Prop where
  row : ∃ pads : List (List Span), pads.length = l.tokens.length ∧ (∀ p ∈ pads, IsPadding p) ∧
    lineSpans l .current s =
      gutter l .current :: (List.zipWith (· ++ ·) pads (tokenParts l s)).flatten
  texts : (tokenParts l s).map (fun spans => (styled spans).map Prod.fst) =
    l.tokens.map fun t => t.text.toList
  sequence : (typedChars l s).map Prod.fst = l.sequence.toList
  before : ∀ i < s.char, ∀ e, (typedChars l s)[i]? = some e → e.2 = Styles.typed
  atCursor : ∀ e, (typedChars l s)[s.char]? = some e →
    e.2 = if s.missed then Styles.cursorError else Styles.cursor
  behind : ∀ i > s.char, ∀ e, (typedChars l s)[i]? = some e → e.2 = Styles.untyped
  oneCursor : (cursors (lineSpans l .current s)).length = if s.char < l.typingLen then 1 else 0
  cursorOn : ∀ e ∈ cursors (lineSpans l .current s), l.expected? s.char = some e.1
  skipped : ∀ (k : Nat) (t : Token) (spans : List Span), l.tokens[k]? = some t →
    t.typeable = false → (tokenParts l s)[k]? = some spans → ∀ e ∈ styled spans,
      e.2 = Styles.skipped

theorem getElem?_typedChars (htabs : ∀ t ∈ (l.filter preset).tokens, '\t' ∉ t.text.toList)
    {i : Nat} {e : Char × Style} (h : (typedChars (l.filter preset) s)[i]? = some e) :
    e.2 = charStyle s i := by
  rw [typedChars_filter htabs, List.getElem?_map, List.getElem?_zipIdx] at h
  obtain ⟨e, he, rfl⟩ := Option.map_eq_some_iff.1 h
  obtain ⟨c, -, rfl⟩ := Option.map_eq_some_iff.1 he
  rw [Nat.zero_add]

theorem length_cursors (htabs : ∀ t ∈ (l.filter preset).tokens, '\t' ∉ t.text.toList) :
    (cursors (lineSpans (l.filter preset) .current s)).length =
      if s.char < (l.filter preset).typingLen then 1 else 0 := by
  rw [cursors_lineSpans htabs, Option.length_toList, Option.isSome_map]
  simp only [Line.expected?_isSome_iff]

/-- A filtered line without tabs is drawn as its progress asks for, wherever the cursor is. -/
theorem lineSpans_drawn (l : Line) (preset : Preset) (s : Session)
    (htabs : ∀ t ∈ (l.filter preset).tokens, '\t' ∉ t.text.toList) :
    Drawn (l.filter preset) s where
  row := lineSpans_eq _ s
  texts := by
    have htext : (fun e : Token × Nat => e.1.text.toList) =
        (fun t : Token => t.text.toList) ∘ Prod.fst := rfl
    rw [tokenParts_filter htabs, List.map_map]
    simp only [Function.comp_def, text_partOf]
    rw [htext, ← List.map_map, List.zipIdx_map_fst]
  sequence := by
    rw [typedChars_filter htabs, List.map_map]
    exact List.zipIdx_map_fst ..
  before i hi e he := by rw [getElem?_typedChars htabs he, charStyle, if_pos hi]
  atCursor e he := by
    rw [getElem?_typedChars htabs he, charStyle, if_neg (Nat.lt_irrefl _), if_pos rfl]
  behind i hi e he := by
    rw [getElem?_typedChars htabs he, charStyle, if_neg (Nat.lt_asymm hi),
      if_neg (Nat.ne_of_gt hi)]
  oneCursor := length_cursors htabs
  cursorOn e he := by
    rw [cursors_lineSpans htabs, Option.mem_toList] at he
    obtain ⟨c, hc, rfl⟩ := Option.map_eq_some_iff.1 he
    exact hc
  skipped k t spans ht htypeable hspans e he := by
    rw [tokenParts_filter htabs, List.getElem?_map, List.getElem?_zipIdx, ht] at hspans
    obtain rfl := Option.some.inj hspans
    rw [styled_partOf, htypeable, if_neg Bool.false_ne_true] at he
    obtain ⟨c, -, rfl⟩ := List.mem_map.1 he
    rfl

/-- The cursor stands behind a bracket that is passed over, and the last key was wrong. -/
theorem lineSpans_drawn_missed :
    let l : Line := ⟨0, 0, [.ofText "ab" "identifier" [.identifier] 0,
      .ofText "[" "[" [.squareBracket] 2, .ofText "cd" "identifier" [.identifier] 5], "", ∅⟩
    let s : Session := { char := 2, missed := true }
    let row := lineSpans (l.filter .standard) .current s
    (typedChars (l.filter .standard) s).map Prod.fst = "abcd".toList ∧
      (cursors row).length = 1 ∧ ∀ e ∈ cursors row, e.1 = 'c' := by
  intro l s row
  have hdrawn : Drawn (l.filter .standard) s := lineSpans_drawn l .standard s (by decide +kernel)
  have hsequence : (l.filter .standard).sequence = "abcd" := by decide +kernel
  have hcursor : s.char < (l.filter .standard).typingLen := by decide +kernel
  refine ⟨hsequence ▸ hdrawn.sequence, ?_, fun e he => ?_⟩
  · rw [hdrawn.oneCursor, if_pos hcursor]
  · have hchar := hdrawn.cursorOn e he
    rw [Line.expected?, hsequence] at hchar
    exact (Option.some.inj hchar).symm

end TypingTrainer.View
