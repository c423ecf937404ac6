import TypingTrainer.Proofs.Decision

namespace TypingTrainer

/-- A text that the standard mode wants, in a comment or in a string. -/
def Token.forced (t : Token) : Bool :=
  [":", ".", ",", "(", ")"].contains t.text && (t.has .comment || t.has .stringContent)

namespace Filter

variable {r s : Rules} {before : Option Token} {tokens rest : List Token} {t : Token}

theorem decides_mono (hexcludes : ∀ c, s.excludes c = true → r.excludes c = true)
    (hincludes : r.includesText t.text = true →
      s.includesText t.text = true ∨ t.categories.toList.any s.excludes = false)
    (h : decides r before t rest = true) : decides s before t rest = true := by
  simp only [decides, Bool.and_eq_true, Bool.or_eq_true, Bool.not_eq_true'] at h ⊢
  obtain ⟨⟨hcan, hname⟩, hwanted⟩ := h
  refine ⟨⟨hcan, ?_⟩, ?_⟩
  · cases htag : isTagName before t rest with
    | false => rfl
    | true =>
        rw [htag, Bool.true_and] at hname
        exact Bool.eq_false_iff.2 fun hs => Bool.eq_false_iff.1 hname (hexcludes _ hs)
  · rcases hwanted with hincluded | hkept
    · exact hincludes hincluded
    · refine .inr (List.any_eq_false.2 fun c hc hs => ?_)
      exact List.any_eq_false.1 hkept c hc (hexcludes c hs)

theorem excludes_minimal {c : Category} (h : Preset.standard.rules.excludes c = true) :
    Preset.minimal.rules.excludes c = true := by
  rw [excludes_iff] at h ⊢
  exact (by decide : Preset.standard.rules.excluded ⊆ Preset.minimal.rules.excluded) h

theorem excludes_standard {c : Category} (h : Preset.full.rules.excludes c = true) :
    Preset.standard.rules.excludes c = true := by
  rw [excludes_iff] at h ⊢
  exact (by decide : Preset.full.rules.excluded ⊆ Preset.standard.rules.excluded) h

theorem any_excludes_full (t : Token) :
    t.categories.toList.any Preset.full.rules.excludes =
      (t.has .comment || t.has .stringContent) := by
  have hfull : Preset.full.rules.excluded = [.comment, .stringContent] := rfl
  rw [Bool.eq_iff_iff, Bool.or_eq_true, List.any_eq_true, Token.has_iff, Token.has_iff]
  simp only [excludes_iff, hfull, List.mem_cons, List.not_mem_nil, or_false]
  constructor
  · rintro ⟨c, hc, rfl | rfl⟩
    · exact .inl hc
    · exact .inr hc
  · rintro (hc | hc)
    · exact ⟨_, hc, .inl rfl⟩
    · exact ⟨_, hc, .inr rfl⟩

theorem forced_eq (t : Token) : t.forced =
    (Preset.standard.rules.includesText t.text &&
      t.categories.toList.any Preset.full.rules.excludes) := by
  rw [any_excludes_full]
  rfl

theorem decides_standard (h : decides Preset.minimal.rules before t rest = true) :
    decides Preset.standard.rules before t rest = true :=
  decides_mono (fun _ => excludes_minimal) (fun hincluded => nomatch hincluded) h

theorem decides_full (h : decides Preset.minimal.rules before t rest = true) :
    decides Preset.full.rules before t rest = true :=
  decides_mono (fun _ hc => excludes_minimal (excludes_standard hc))
    (fun hincluded => nomatch hincluded) h

theorem decides_full_iff (h : decides Preset.standard.rules before t rest = true) :
    decides Preset.full.rules before t rest = true ↔ t.forced = false := by
  rw [forced_eq]
  constructor
  · intro hfull
    simp only [decides, Bool.and_eq_true, Bool.or_eq_true, Bool.not_eq_true'] at hfull
    have hkept := hfull.2.resolve_left Bool.false_ne_true
    rw [hkept, Bool.and_false]
  · intro hforced
    refine decides_mono (fun _ => excludes_standard) (fun hincluded => .inr ?_) h
    rwa [hincluded, Bool.true_and] at hforced

theorem sequence_cons (t : Token) (tokens : List Token) : sequence (t :: tokens) =
    (if t.typeable then t.text.toList else []) ++ sequence tokens := by
  cases h : t.typeable <;> simp [sequence, h]

theorem sequence_sublist (keeps : Token → Bool)
    (hflag : ∀ (t : Token) (b : Bool), keeps { t with typeable := b } = keeps t)
    (h : ∀ {before t rest}, keeps t = true → decides r before t rest = true →
      decides s before t rest = true) (before : Option Token) (tokens : List Token) :
    (sequence ((flagFrom r before tokens).filter keeps)).Sublist
      (sequence (flagFrom s before tokens)) := by
  -- the flags look ahead, but both sides go through the same tokens with the same one before them
  induction tokens generalizing before with
  | nil => exact .refl _
  | cons t rest ih =>
      have hrest := ih (some t)
      rw [flagFrom, flagFrom, List.filter_cons, hflag, sequence_cons]
      cases hkeeps : keeps t with
      | false =>
          rw [if_neg Bool.false_ne_true]
          exact hrest.trans (List.sublist_append_right _ _)
      | true =>
          rw [if_pos rfl, sequence_cons]
          refine List.Sublist.append ?_ hrest
          cases hr : decides r before t rest with
          | false => exact List.nil_sublist _
          | true => simp only [h hkeeps hr, if_true, List.Sublist.refl]

end Filter

namespace Line

def asksFor (l : Line) (preset : Preset) (k : Nat) : Bool :=
  (l.filter preset).tokens[k]?.any Token.typeable

theorem asksFor_eq (l : Line) (preset : Preset) (k : Nat) : l.asksFor preset k =
    l.tokens[k]?.any fun t =>
      Filter.decides preset.rules (Filter.before? l.tokens k) t (l.tokens.drop (k + 1)) := by
  rw [asksFor, tokens_filter, Filter.getElem?_flag, Option.any_map]

theorem sequence_filter (l : Line) (preset : Preset) :
    (l.filter preset).sequence.toList = Filter.sequence (l.filter preset).tokens :=
  String.toList_ofList

theorem sublist_filter {p q : Preset} (h : ∀ {before t rest},
      Filter.decides p.rules before t rest = true → Filter.decides q.rules before t rest = true)
    (l : Line) :
    (l.filter p).sequence.toList.Sublist (l.filter q).sequence.toList := by
  have hall := Filter.sequence_sublist (fun _ => true) (fun _ _ => rfl) (fun _ => h) none l.tokens
  rw [List.filter_eq_self.2 fun _ _ => rfl] at hall
  rw [sequence_filter, sequence_filter]
  exact hall

/-- Each mode asks for all the tokens that the one before it asks for, and types at least its
sequence, but for the texts that only the standard mode wants. Without them its sequence is part of
the one of the full mode. -/
theorem filter_nested (l : Line) :
    (∀ k, l.asksFor .minimal k = true →
      l.asksFor .standard k = true ∧ l.asksFor .full k = true) ∧
    (∀ k t, l.tokens[k]? = some t → l.asksFor .standard k = true →
      (l.asksFor .full k = true ↔ t.forced = false)) ∧
    (l.filter .minimal).sequence.toList.Sublist (l.filter .standard).sequence.toList ∧
    (l.filter .minimal).sequence.toList.Sublist (l.filter .full).sequence.toList ∧
    (Filter.sequence ((l.filter .standard).tokens.filter fun t => !t.forced)).Sublist
      (l.filter .full).sequence.toList ∧
    ((∀ t ∈ (l.filter .standard).tokens, t.typeable = true → t.forced = false) →
      (l.filter .standard).sequence.toList.Sublist (l.filter .full).sequence.toList) := by
  have hunforced : (Filter.sequence ((l.filter .standard).tokens.filter fun t => !t.forced)).Sublist
      (l.filter .full).sequence.toList := by
    rw [sequence_filter]
    refine Filter.sequence_sublist (fun t => !t.forced) (fun _ _ => rfl) ?_ none l.tokens
    intro before t rest hkeeps h
    exact (Filter.decides_full_iff h).2 (Bool.not_eq_true' _ ▸ hkeeps)
  refine ⟨fun k h => ?_, fun k t ht h => ?_, sublist_filter Filter.decides_standard l,
    sublist_filter Filter.decides_full l, hunforced, fun h => ?_⟩
  · rw [asksFor_eq] at h
    obtain ⟨t, ht, hminimal⟩ := (Option.any_eq_true _ _).1 h
    rw [asksFor_eq, asksFor_eq, ht]
    exact ⟨Filter.decides_standard hminimal, Filter.decides_full hminimal⟩
  · rw [asksFor_eq, ht] at h ⊢
    exact Filter.decides_full_iff h
  · have hsame : Filter.sequence ((l.filter .standard).tokens.filter fun t => !t.forced) =
        Filter.sequence (l.filter .standard).tokens := by
      rw [Filter.sequence, Filter.sequence, List.filter_filter]
      congr 1
      -- a token that is not typed adds nothing, whether it is kept or not
      refine List.filter_congr fun t ht => ?_
      cases htypeable : t.typeable with
      | false => rfl
      | true => rw [h t ht htypeable]; rfl
    rw [sequence_filter _ .standard, ← hsame]
    exact hunforced

def quotedComma : Line where
  number := 0
  indent := 0
  tokens := [.ofText "x" "identifier" [.identifier] 0, .ofText "\"" "string" [.stringDelimiter] 1,
    .ofText "," "string" [.stringContent] 2, .ofText "\"" "string" [.stringDelimiter] 3,
    .ofText "+" "operator" [.operator] 4]
  sequence := ""
  charMap := ∅

/-- All modes ask for the name, the comma is left out by the full mode, and the standard mode types
no more than the full one once the comma is replaced. -/
theorem filter_nested_quotedComma :
    let replaced := { quotedComma with tokens := quotedComma.tokens.set 2 (.ofText "a" "" [] 2) }
    quotedComma.asksFor .full 0 = true ∧
      ¬ (quotedComma.asksFor .full 2 = true ↔ quotedComma.asksFor .standard 2 = true) ∧
      (replaced.filter .standard).sequence = "xa+" ∧
      (replaced.filter .standard).sequence.toList.Sublist
        (replaced.filter .full).sequence.toList := by
  intro replaced
  obtain ⟨hminimal, hstandard, -⟩ := filter_nested quotedComma
  obtain ⟨-, -, -, -, -, hsequence⟩ := filter_nested replaced
  have hcomma : quotedComma.asksFor .standard 2 = true := by decide +kernel
  refine ⟨(hminimal 0 (by decide +kernel)).2, fun hsame => ?_, by decide +kernel,
    hsequence (by decide +kernel)⟩
  have hforced := (hstandard 2 _ rfl hcomma).1 (hsame.2 hcomma)
  exact absurd hforced (by decide +kernel)

/-- The standard mode asks for the comma in quotation marks, the full mode does not. -/
theorem standard_not_in_full :
    (¬ ∀ (l : Line) (k : Nat), l.asksFor .standard k = true → l.asksFor .full k = true) ∧
    ¬ ∀ l : Line,
      (l.filter .standard).sequence.toList.Sublist (l.filter .full).sequence.toList := by
  refine ⟨fun h => ?_, fun h => ?_⟩
  · exact absurd (h quotedComma 2 (by decide +kernel)) (by decide +kernel)
  · exact absurd (h quotedComma) (by decide +kernel)

end Line

end TypingTrainer
