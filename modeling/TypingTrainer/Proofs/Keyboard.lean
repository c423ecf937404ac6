import TypingTrainer.Proofs.Finishing

namespace TypingTrainer

variable {lines : List Line} {l : Line} {c : Char} {i : Nat}

def HasKey (c : Char) : Prop := ∃ k : Key, k.classify .running = .type c

/-- The keys that type a character during a test: a press without a command modifier, of the
character itself or of Enter. -/
theorem Key.classify_running_iff {k : Key} : k.classify .running = .type c ↔
    k.kind = .press ∧ k.modifiers.command = false ∧
      (k.code = .char c ∧ Text.isControl c = false ∨ k.code = .enter ∧ c = '\n') := by
  constructor
  · intro h
    unfold classify at h
    have hkind : k.kind = .press := by
      cases hkind : k.kind with
      | press => rfl
      | repeated | release =>
          rw [if_pos (by simp [hkind])] at h
          exact nomatch h
    have hcommand : k.modifiers.command = false := by
      cases hcommand : k.modifiers.command with
      | false => rfl
      | true =>
          rw [if_neg (by simp [hkind]), if_neg (by simp), if_pos hcommand] at h
          exact nomatch h
    rw [if_neg (by simp [hkind]), if_neg (by simp), if_neg (by simp [hcommand])] at h
    refine ⟨hkind, hcommand, ?_⟩
    cases hcode : k.code with
    | char d =>
        cases hcontrol : Text.isControl d with
        | true => simp [hcode, hcontrol, resetCode, pauseCode] at h
        | false =>
            have hchar : d = c := by simpa [hcode, hcontrol, resetCode, pauseCode] using h
            rw [← hchar]
            exact .inl ⟨rfl, hcontrol⟩
    | enter =>
        have hfeed : '\n' = c := by simpa [hcode, resetCode, pauseCode] using h
        exact .inr ⟨rfl, hfeed.symm⟩
    | _ => simp [hcode, resetCode, pauseCode] at h
  · rintro ⟨hkind, hcommand, ⟨hcode, hcontrol⟩ | ⟨hcode, rfl⟩⟩
    · simp [classify, hkind, hcommand, hcode, hcontrol, resetCode, pauseCode]
    · simp [classify, hkind, hcommand, hcode, resetCode, pauseCode]

theorem hasKey_iff : HasKey c ↔ c = '\n' ∨ Text.isControl c = false := by
  constructor
  · rintro ⟨k, hk⟩
    obtain ⟨-, -, ⟨-, hcontrol⟩ | ⟨-, hfeed⟩⟩ := Key.classify_running_iff.1 hk
    · exact .inr hcontrol
    · exact .inl hfeed
  · intro hc
    exact ⟨Key.plain c, Key.classify_plain (.inr rfl) hc⟩

theorem Filter.mem_sequence {tokens : List Token} :
    c ∈ Filter.sequence tokens ↔ ∃ t ∈ tokens, t.typeable = true ∧ c ∈ t.text.toList := by
  simp only [Filter.sequence, List.mem_flatMap, List.mem_filter, and_assoc]

theorem Line.mem_sequence_filter (l : Line) (preset : Preset) :
    c ∈ (l.filter preset).sequence.toList ↔
      ∃ t ∈ (l.filter preset).tokens, t.typeable = true ∧ c ∈ t.text.toList := by
  rw [← Filter.mem_sequence]
  exact iff_of_eq (congrArg (c ∈ ·) String.toList_ofList)

theorem Line.mem_sequence_iff (l : Line) :
    c ∈ l.sequence.toList ↔ ∃ i < l.typingLen, l.expected? i = some c := by
  rw [List.mem_iff_getElem?, Line.typingLen, ← String.length_toList]
  constructor
  · rintro ⟨i, hi⟩
    exact ⟨i, (List.getElem?_eq_some_iff.1 hi).1, hi⟩
  · rintro ⟨i, -, hi⟩
    exact ⟨i, hi⟩

/-- A key passes the position of the cursor exactly if it types the character expected there. -/
theorem Session.handleKey_passes_iff {s : Session} (h : s.phase = .running)
    (hl : s.current? lines = some l) (hc : l.expected? s.char = some c) (k : Key) (now : Instant) :
    (s.handleKey lines k now).session.char = s.char + 1 ↔ k.classify .running = .type c := by
  rw [handleKey, h]
  cases hk : k.classify .running with
  | ignore | reset => simp
  | togglePause => simp [togglePause, h]
  | type d =>
      rcases s.typeChar_cases lines d with ⟨hnone, -⟩ | ⟨m, e, hm, he, heq⟩
      · simp [hnone l hl] at hc
      · obtain rfl : l = m := Option.some.inj (hl.symm.trans hm)
        obtain rfl : c = e := Option.some.inj (hc.symm.trans he)
        simp only [reduceCtorEq, if_false, heq, KeyAction.type.injEq]
        by_cases hd : d = c
        · simp [hd, hit]
        · simp [hd, miss]

/-- A position of a filtered line has a key if and only if it asks for a line feed or for a
character that is not a control character, and a running session is led past it by no other key. So
all positions of a line have one if and only if no token that has to be typed holds another control
character. -/
theorem filter_hasKey_iff (source : Snippet) (preset : Preset) :
    ∀ l ∈ (source.filter preset).lines,
      (∀ i < l.typingLen, ∃ c, l.expected? i = some c ∧
        (HasKey c ↔ c = '\n' ∨ Text.isControl c = false) ∧
        ∀ (s : Session) (lines : List Line), s.phase = .running → s.current? lines = some l →
          s.char = i → ((∃ k now, (s.handleKey lines k now).session.char = i + 1) ↔ HasKey c)) ∧
      ((∀ i < l.typingLen, ∃ c, l.expected? i = some c ∧ HasKey c) ↔
        ∀ t ∈ l.tokens, t.typeable = true →
          ∀ c ∈ t.text.toList, c = '\n' ∨ Text.isControl c = false) := by
  intro l hl
  obtain ⟨m, -, rfl⟩ := List.mem_map.1 hl
  refine ⟨fun i hi => ?_, ?_⟩
  · obtain ⟨c, hc⟩ := Option.isSome_iff_exists.1 (((m.filter preset).expected?_isSome_iff i).2 hi)
    refine ⟨c, hc, hasKey_iff, fun s lines hphase hcurrent hchar => ?_⟩
    subst hchar
    simp only [Session.handleKey_passes_iff hphase hcurrent hc, exists_const]
    rfl
  · constructor
    · intro hkeys t ht htypeable c hc
      obtain ⟨i, hi, hexpected⟩ := (Line.mem_sequence_iff _).1
        ((m.mem_sequence_filter preset).2 ⟨t, ht, htypeable, hc⟩)
      obtain ⟨d, hd, hkey⟩ := hkeys i hi
      obtain rfl : c = d := Option.some.inj (hexpected.symm.trans hd)
      exact hasKey_iff.1 hkey
    · intro htokens i hi
      obtain ⟨c, hc⟩ := Option.isSome_iff_exists.1 (((m.filter preset).expected?_isSome_iff i).2 hi)
      obtain ⟨t, ht, htypeable, hmem⟩ := (m.mem_sequence_filter preset).1
        ((Line.mem_sequence_iff _).2 ⟨i, hi, hc⟩)
      exact ⟨c, hc, hasKey_iff.2 (htokens t ht htypeable c hmem)⟩

/-- A word with a line feed in it can be typed out, one with a tab in it cannot. -/
theorem filter_hasKey_iff_tabbed :
    let lines := ((Snippet.ofWords ["a\tb", "a\nb"]).filter .full).lines
    ∃ tabbed broken, lines = [tabbed, broken] ∧
      (¬ ∀ i < tabbed.typingLen, ∃ c, tabbed.expected? i = some c ∧ HasKey c) ∧
      ∀ i < broken.typingLen, ∃ c, broken.expected? i = some c ∧ HasKey c := by
  refine ⟨_, _, rfl, fun hkeys => ?_, ?_⟩
  · have hplain := (filter_hasKey_iff (.ofWords ["a\tb", "a\nb"]) .full _
      List.mem_cons_self).2.1 hkeys _ List.mem_cons_self (by decide +kernel) '\t' (by decide +kernel)
    exact absurd hplain (by decide)
  · refine (filter_hasKey_iff (.ofWords ["a\tb", "a\nb"]) .full _
      (List.mem_cons_of_mem _ List.mem_cons_self)).2.2 ?_
    intro t ht _ c hc
    obtain rfl := List.mem_singleton.1 ht
    have hchars : c ∈ ['a', '\n', 'b'] := hc
    simp only [List.mem_cons, List.not_mem_nil, or_false] at hchars
    rcases hchars with rfl | rfl | rfl
    · exact .inr rfl
    · exact .inl rfl
    · exact .inr rfl

/-- The tab within a word is asked for, and there is no key for it. -/
theorem no_key_for_tab :
    ¬ ∀ (source : Snippet) (preset : Preset), ∀ l ∈ (source.filter preset).lines,
      ∀ i < l.typingLen, ∃ (c : Char) (k : Key), l.expected? i = some c ∧
        k.classify .running = .type c := by
  intro h
  obtain ⟨c, k, hc, hk⟩ := h (.ofWords ["a\tb"]) .full _ List.mem_cons_self 1 (by decide +kernel)
  obtain rfl : '\t' = c := Option.some.inj (Eq.trans (by decide +kernel) hc)
  exact absurd (hasKey_iff.1 ⟨k, hk⟩) (by decide)

end TypingTrainer
