import TypingTrainer.Proofs.Entries
import TypingTrainer.Proofs.Modes
import Mathlib.Algebra.Ring.Nat

namespace TypingTrainer

namespace Filter

section Pieces

variable {α β : Type} {xs : List α} {f : α → List β} {x : α} {i j k : Nat}

theorem getElem?_flatMap_add (h : xs[k]? = some x) (hj : j < (f x).length) :
    (xs.flatMap f)[((xs.take k).flatMap f).length + j]? = (f x)[j]? := by
  obtain ⟨hk, rfl⟩ := List.getElem?_eq_some_iff.1 h
  have hsplit : xs.flatMap f =
      (xs.take k).flatMap f ++ (f xs[k] ++ (xs.drop (k + 1)).flatMap f) := by
    rw [← List.flatMap_cons, ← List.drop_eq_getElem_cons hk, ← List.flatMap_append,
      List.take_append_drop]
  rw [hsplit, List.getElem?_append_right (Nat.le_add_right _ _), Nat.add_sub_cancel_left,
    List.getElem?_append_left hj]

theorem exists_of_lt_length_flatMap (h : i < (xs.flatMap f).length) :
    ∃ k x, xs[k]? = some x ∧ ((xs.take k).flatMap f).length ≤ i ∧
      i < ((xs.take k).flatMap f).length + (f x).length := by
  induction xs generalizing i with
  | nil => exact absurd h (Nat.not_lt_zero i)
  | cons y ys ih =>
      by_cases hi : i < (f y).length
      · exact ⟨0, y, rfl, Nat.zero_le _, by simpa using hi⟩
      · rw [List.flatMap_cons, List.length_append] at h
        obtain ⟨k, x, hx, hle, hlt⟩ := ih (i := i - (f y).length) (by omega)
        refine ⟨k + 1, x, hx, ?_⟩
        rw [List.take_succ_cons, List.flatMap_cons, List.length_append]
        omega

theorem length_flatMap_take_le (h : xs[k]? = some x) (hk : k < j) :
    ((xs.take k).flatMap f).length + (f x).length ≤ ((xs.take j).flatMap f).length := by
  obtain ⟨hlt, rfl⟩ := List.getElem?_eq_some_iff.1 h
  have htake : xs.take j = xs.take k ++ xs[k] :: (xs.take j).drop (k + 1) := by
    have hsplit := List.take_append_drop (k + 1) (xs.take j)
    rw [List.take_take, Nat.min_eq_left hk, List.take_succ_eq_append_getElem hlt] at hsplit
    exact hsplit.symm.trans (List.append_assoc ..)
  rw [htake, List.flatMap_append, List.flatMap_cons]
  simp only [List.length_append]
  omega

end Pieces

variable {tokens : List Token} {t u : Token} {i j k : Nat}

def offset (tokens : List Token) (k : Nat) : Nat :=
  (((tokens.take k).filter Token.typeable).map fun t => t.text.length).sum

/-- The position `i` of the sequence lies in the token `t`, at `k`. -/
structure Owns (tokens : List Token) (k : Nat) (t : Token) (i : Nat) : Prop where
  token : tokens[k]? = some t
  typeable : t.typeable = true
  offset_le : offset tokens k ≤ i
  lt : i < offset tokens k + t.text.length

def typedText (t : Token) : List Char := if t.typeable then t.text.toList else []

def typedFrom (e : Token × Nat) : List CharPos :=
  if e.1.typeable then List.replicate e.1.text.length ⟨e.2, e.1.startCol⟩ else []

theorem sequence_eq (tokens : List Token) : sequence tokens = tokens.flatMap typedText := by
  induction tokens with
  | nil => rfl
  | cons t rest ih => rw [sequence_cons, ih, List.flatMap_cons, typedText]

theorem origins_eq (tokens : List Token) : origins tokens = tokens.zipIdx.flatMap typedFrom := rfl

theorem length_typedText (ht : t.typeable = true) : (typedText t).length = t.text.length := by
  rw [typedText, if_pos ht, String.length_toList]

theorem length_typedFrom (e : Token × Nat) : (typedFrom e).length = (typedText e.1).length := by
  cases h : e.1.typeable <;> simp [typedFrom, typedText, h, String.length_toList]

theorem length_flatMap_typedFrom (es : List (Token × Nat)) :
    (es.flatMap typedFrom).length = ((es.map Prod.fst).flatMap typedText).length := by
  rw [List.flatMap_map, List.length_flatMap, List.length_flatMap]
  simp only [length_typedFrom]

theorem offset_eq (tokens : List Token) (k : Nat) :
    offset tokens k = ((tokens.take k).flatMap typedText).length := by
  rw [← sequence_eq, sequence, List.length_flatMap]
  simp only [String.length_toList]
  rfl

theorem Owns.char (h : Owns tokens k t i) :
    (sequence tokens)[i]? = t.text.toList[i - offset tokens k]? := by
  have hle := h.offset_le
  have hlt : i - offset tokens k < (typedText t).length := by
    rw [length_typedText h.typeable]
    have := h.lt
    omega
  have hchar := getElem?_flatMap_add (f := typedText) h.token hlt
  rw [← offset_eq, Nat.add_sub_cancel' hle, ← sequence_eq, typedText, if_pos h.typeable] at hchar
  exact hchar

theorem Owns.origin (h : Owns tokens k t i) :
    (origins tokens)[i]? = some ⟨k, t.startCol⟩ := by
  have hle := h.offset_le
  have hlt : i - offset tokens k < t.text.length := by
    have := h.lt
    omega
  -- the origins are laid out like the texts, so both have the token at the same offset
  have hindex : tokens.zipIdx[k]? = some (t, k) := by
    rw [List.getElem?_zipIdx, h.token, Nat.zero_add]
    rfl
  have horigin := getElem?_flatMap_add (f := typedFrom) (j := i - offset tokens k) hindex (by
    rwa [length_typedFrom, length_typedText h.typeable])
  rw [length_flatMap_typedFrom, List.map_take, List.zipIdx_map_fst, ← offset_eq,
    Nat.add_sub_cancel' hle, typedFrom, if_pos h.typeable, List.getElem?_replicate,
    if_pos hlt] at horigin
  exact horigin

theorem exists_owns (h : i < (sequence tokens).length) : ∃ k t, Owns tokens k t i := by
  rw [sequence_eq] at h
  obtain ⟨k, t, ht, hle, hlt⟩ := exists_of_lt_length_flatMap h
  rw [← offset_eq] at hle hlt
  cases htypeable : t.typeable with
  | false =>
      simp only [typedText, htypeable] at hlt
      exact absurd hle (Nat.not_le_of_lt hlt)
  | true =>
      rw [length_typedText htypeable] at hlt
      exact ⟨k, t, ht, htypeable, hle, hlt⟩

theorem Owns.lt_length (h : Owns tokens k t i) : i < (sequence tokens).length := by
  rw [← Nat.not_le, ← List.getElem?_eq_none_iff, h.char, List.getElem?_eq_none_iff,
    String.length_toList]
  have hlt := h.lt
  have hle := h.offset_le
  omega

theorem Owns.offset_lt (h : Owns tokens k t i) (hj : k < j) : i < offset tokens j := by
  have hle := length_flatMap_take_le (f := typedText) h.token hj
  rw [← offset_eq, ← offset_eq, length_typedText h.typeable] at hle
  exact Nat.lt_of_lt_of_le h.lt hle

theorem Owns.index_le (h : Owns tokens k t i) {n : Nat} (h' : Owns tokens n u j) (hij : i ≤ j) :
    k ≤ n := by
  refine Nat.not_lt.1 fun hlt => ?_
  have hj := h'.offset_lt hlt
  have hle := h.offset_le
  omega

theorem length_origins (tokens : List Token) :
    (origins tokens).length = (sequence tokens).length := by
  rw [origins_eq, length_flatMap_typedFrom, List.zipIdx_map_fst, sequence_eq]

end Filter

open TypingTrainer.Filter (offset Owns)

structure Line.Mapped (l : Line) : Prop where
  sequence_eq : l.sequence = String.join ((l.tokens.filter Token.typeable).map Token.text)
  keys_eq : l.charMap.keys = List.range l.typingLen
  origin : ∀ i < l.typingLen, ∃ pos t, l.charMap.get? i = some pos ∧
    l.tokens[pos.token]? = some t ∧ t.typeable = true ∧ pos.column = t.startCol ∧
    offset l.tokens pos.token ≤ i ∧ ∃ c, t.text.toList[i - offset l.tokens pos.token]? = some c ∧
      l.expected? i = some c
  ordered : ∀ i j a b, l.charMap.get? i = some a → l.charMap.get? j = some b → i ≤ j →
    a.token ≤ b.token
  stretch : ∀ k t, l.tokens[k]? = some t → t.typeable = true → 0 < t.text.length ∧
    ∀ i, (l.charMap.get? i).map CharPos.token = some k ↔
      offset l.tokens k ≤ i ∧ i < offset l.tokens k + t.text.length
  typeable_iff : l.isTypeable = true ↔ ∃ t ∈ l.tokens, t.typeable = true

namespace Line

variable {l : Line} {preset : Preset} {i k : Nat} {t : Token}

theorem typingLen_filter (l : Line) (preset : Preset) :
    (l.filter preset).typingLen = (Filter.sequence (l.filter preset).tokens).length := by
  rw [typingLen, ← String.length_toList, sequence_filter]

theorem get?_filter (l : Line) (preset : Preset) (i : Nat) :
    (l.filter preset).charMap.get? i = (Filter.origins (l.filter preset).tokens)[i]? :=
  SortedMap.get?_ofPositions ..

theorem length_pos_of_typeable (h : (l.filter preset).tokens[k]? = some t)
    (ht : t.typeable = true) : 0 < t.text.length := by
  rw [tokens_filter, Filter.getElem?_flag, Option.map_eq_some_iff] at h
  obtain ⟨u, -, rfl⟩ := h
  obtain ⟨c, hc, -⟩ := ((Filter.decides_iff ..).1 ht).visible
  rw [← String.length_toList]
  exact List.length_pos_of_mem hc

theorem get?_filter_iff {pos : CharPos} :
    (l.filter preset).charMap.get? i = some pos ↔
      ∃ t, Owns (l.filter preset).tokens pos.token t i ∧ pos.column = t.startCol := by
  rw [get?_filter]
  constructor
  · intro h
    have hlt := (List.getElem?_eq_some_iff.1 h).1
    rw [Filter.length_origins] at hlt
    obtain ⟨k, t, howns⟩ := Filter.exists_owns hlt
    obtain rfl := Option.some.inj (howns.origin.symm.trans h)
    exact ⟨t, howns, rfl⟩
  · rintro ⟨t, howns, hcolumn⟩
    rw [howns.origin, ← hcolumn]

theorem origin_filter (h : i < (l.filter preset).typingLen) :
    ∃ pos t, (l.filter preset).charMap.get? i = some pos ∧
      (l.filter preset).tokens[pos.token]? = some t ∧ t.typeable = true ∧
      pos.column = t.startCol ∧ offset (l.filter preset).tokens pos.token ≤ i ∧
      ∃ c, t.text.toList[i - offset (l.filter preset).tokens pos.token]? = some c ∧
        (l.filter preset).expected? i = some c := by
  rw [typingLen_filter] at h
  obtain ⟨k, t, howns⟩ := Filter.exists_owns h
  obtain ⟨c, hc⟩ : ∃ c, (Filter.sequence (l.filter preset).tokens)[i]? = some c :=
    ⟨_, List.getElem?_eq_getElem h⟩
  refine ⟨⟨k, t.startCol⟩, t, get?_filter_iff.2 ⟨t, howns, rfl⟩, howns.token, howns.typeable, rfl,
    howns.offset_le, c, howns.char.symm.trans hc, ?_⟩
  rw [expected?, sequence_filter, hc]

theorem stretch_filter (h : (l.filter preset).tokens[k]? = some t) (ht : t.typeable = true)
    (i : Nat) : ((l.filter preset).charMap.get? i).map CharPos.token = some k ↔
      offset (l.filter preset).tokens k ≤ i ∧
        i < offset (l.filter preset).tokens k + t.text.length := by
  rw [Option.map_eq_some_iff]
  constructor
  · rintro ⟨pos, hpos, rfl⟩
    obtain ⟨u, howns, -⟩ := get?_filter_iff.1 hpos
    obtain rfl : t = u := Option.some.inj (h.symm.trans howns.token)
    exact ⟨howns.offset_le, howns.lt⟩
  · rintro ⟨hle, hlt⟩
    exact ⟨⟨k, t.startCol⟩, get?_filter_iff.2 ⟨t, ⟨h, ht, hle, hlt⟩, rfl⟩, rfl⟩

theorem isTypeable_filter_iff (l : Line) (preset : Preset) :
    (l.filter preset).isTypeable = true ↔ ∃ t ∈ (l.filter preset).tokens, t.typeable = true := by
  rw [isTypeable_iff, typingLen_filter]
  constructor
  · intro hpos
    obtain ⟨k, t, howns⟩ := Filter.exists_owns hpos
    exact ⟨t, List.mem_of_getElem? howns.token, howns.typeable⟩
  · rintro ⟨t, hmem, ht⟩
    obtain ⟨k, hk⟩ := List.mem_iff_getElem?.1 hmem
    have howns : Owns (l.filter preset).tokens k t (offset (l.filter preset).tokens k) :=
      ⟨hk, ht, Nat.le_refl _, Nat.lt_add_of_pos_right (length_pos_of_typeable hk ht)⟩
    exact Nat.zero_lt_of_lt howns.lt_length

/-- The sequence of a filtered line is that of its typeable tokens, and its char map leads each
position back to the token that it is of. Nothing else of the line is changed. -/
theorem filter_mapped (l : Line) (preset : Preset) :
    (l.filter preset).Mapped ∧ (l.filter preset).number = l.number ∧
      (l.filter preset).indent = l.indent ∧
      (l.filter preset).tokens.map Token.raw = l.tokens.map Token.raw := by
  have hmapped : (l.filter preset).Mapped := {
    sequence_eq := by
      apply String.toList_inj.1
      rw [sequence_filter, String.toList_join, List.flatMap_map, Filter.sequence]
    keys_eq := by
      rw [typingLen_filter, ← Filter.length_origins]
      exact SortedMap.keys_ofPositions _
    origin := fun _ hi => origin_filter hi
    ordered := by
      intro i j a b ha hb hij
      obtain ⟨t, ht, -⟩ := get?_filter_iff.1 ha
      obtain ⟨u, hu, -⟩ := get?_filter_iff.1 hb
      exact ht.index_le hu hij
    stretch := fun _ _ h ht => ⟨length_pos_of_typeable h ht, stretch_filter h ht⟩
    typeable_iff := isTypeable_filter_iff l preset }
  exact ⟨hmapped, rfl, rfl, Filter.map_raw_flagFrom none l.tokens⟩

/-- Letters of two bytes each, with a bracket between them that is passed over. -/
theorem filter_mapped_umlauts :
    let l : Line := ⟨0, 0, [.ofText "ä" "identifier" [.identifier] 0,
      .ofText "[" "[" [.squareBracket] 1, .ofText "öü" "identifier" [.identifier] 2], "", ∅⟩
    (l.filter .standard).sequence = "äöü" ∧
      ∀ i, ((l.filter .standard).charMap.get? i).map CharPos.token = some 2 ↔ 1 ≤ i ∧ i < 3 := by
  intro l
  obtain ⟨hmapped, -⟩ := l.filter_mapped .standard
  exact ⟨by decide +kernel, (hmapped.stretch 2 _ rfl (by decide +kernel)).2⟩

end Line

end TypingTrainer
