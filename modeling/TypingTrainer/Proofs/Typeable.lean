import TypingTrainer.Session

namespace TypingTrainer

variable {lines : List Line} {i j k : Nat} {l : Line}

theorem Line.isTypeable_iff (l : Line) : l.isTypeable = true ↔ 0 < l.typingLen := by
  simp [isTypeable, typingLen, Nat.pos_iff_ne_zero]

theorem Line.isTypeable_eq_false_iff (l : Line) : l.isTypeable = false ↔ l.sequence = "" := by
  simp [isTypeable]

theorem Line.expected?_isSome_iff (l : Line) (i : Nat) :
    (l.expected? i).isSome = true ↔ i < l.typingLen := by
  simp [expected?, typingLen, String.length_toList]

def FirstTypeable (lines : List Line) (i : Nat) : Prop :=
  (∃ l, lines[i]? = some l ∧ l.isTypeable = true ∧
    ∀ k < i, ∀ m, lines[k]? = some m → m.isTypeable = false) ∨
  (i = lines.length ∧ ∀ m ∈ lines, m.isTypeable = false)

/-- `j` is the first line from `i` on with something to type. -/
structure NextTypeable (lines : List Line) (i j : Nat) : Prop where
  le : i ≤ j
  typeable : ∃ l, lines[j]? = some l ∧ l.isTypeable = true
  skipped : ∀ k l, i ≤ k → k < j → lines[k]? = some l → l.isTypeable = false

theorem NextTypeable.lt_length (h : NextTypeable lines i j) : j < lines.length := by
  obtain ⟨l, hl, -⟩ := h.typeable
  exact (List.getElem?_eq_some_iff.1 hl).1

theorem NextTypeable.not_forall (h : NextTypeable lines i j) :
    ¬ ∀ l ∈ lines.drop i, l.isTypeable = false := by
  obtain ⟨l, hl, ht⟩ := h.typeable
  have hd : (lines.drop i)[j - i]? = some l := by
    rw [List.getElem?_drop, Nat.add_sub_cancel' h.le, hl]
  intro hnone
  exact Bool.noConfusion (ht.symm.trans (hnone l (List.mem_of_getElem? hd)))

theorem forall_drop_iff {P : Line → Prop} :
    (∀ l ∈ lines.drop i, P l) ↔
      (∀ l, lines[i]? = some l → P l) ∧ ∀ l ∈ lines.drop (i + 1), P l := by
  rw [List.drop_eq_getElem?_toList_append, List.forall_mem_append]
  simp only [Option.mem_toList]

def Snippet.ofWords (words : List String) : Snippet where
  language := .python
  totalLines := words.length
  lines := words.zipIdx.map fun (w, i) => ⟨i, 0, [.ofText w "identifier" [.identifier] 0], "", ∅⟩

def Snippet.ofTokens (tokens : List Token) : Snippet where
  language := .python
  totalLines := tokens.length
  lines := tokens.zipIdx.map fun (t, i) => ⟨i, 0, [t], "", ∅⟩

namespace Session

def nextTypeable (lines : List Line) (i : Nat) : Nat :=
  i + ((lines.drop i).takeWhile fun l => !l.isTypeable).length

theorem nextTypeable_eq (lines : List Line) (i : Nat) :
    nextTypeable lines i = i + (lines.drop i).findIdx Line.isTypeable := by
  rw [nextTypeable, List.takeWhile_eq_take_findIdx_not, List.length_take]
  simp only [Bool.not_not]
  rw [Nat.min_eq_left List.findIdx_le_length]

theorem le_nextTypeable (lines : List Line) (i : Nat) : i ≤ nextTypeable lines i :=
  Nat.le_add_right _ _

theorem nextTypeable_le_length (h : i ≤ lines.length) : nextTypeable lines i ≤ lines.length := by
  have hle : (lines.drop i).findIdx Line.isTypeable ≤ (lines.drop i).length :=
    List.findIdx_le_length
  rw [List.length_drop] at hle
  rw [nextTypeable_eq]
  omega

theorem nextTypeable_of_length_le (h : lines.length ≤ i) : nextTypeable lines i = i := by
  rw [nextTypeable_eq, List.drop_eq_nil_of_le h]
  rfl

theorem isTypeable_nextTypeable (h : lines[nextTypeable lines i]? = some l) :
    l.isTypeable = true := by
  rw [nextTypeable_eq, ← List.getElem?_drop] at h
  obtain ⟨hlt, rfl⟩ := List.getElem?_eq_some_iff.1 h
  exact List.findIdx_getElem

theorem isTypeable_eq_false (hi : i ≤ k) (hk : k < nextTypeable lines i)
    (h : lines[k]? = some l) : l.isTypeable = false := by
  rw [nextTypeable_eq] at hk
  have hlt : k - i < (lines.drop i).findIdx Line.isTypeable := by omega
  have hd : (lines.drop i)[k - i]? = some l := by
    rw [List.getElem?_drop, Nat.add_sub_cancel' hi, h]
  obtain ⟨hlen, rfl⟩ := List.getElem?_eq_some_iff.1 hd
  exact List.not_of_lt_findIdx hlt

theorem eq_nextTypeable (h : NextTypeable lines i j) : j = nextTypeable lines i := by
  have hlt := h.lt_length
  have hle := h.le
  obtain ⟨l, hl, ht⟩ := h.typeable
  rcases Nat.lt_trichotomy j (nextTypeable lines i) with hj | hj | hj
  · exact Bool.noConfusion (ht.symm.trans (isTypeable_eq_false hle hj hl))
  · exact hj
  · have hnext := List.getElem?_eq_getElem (Nat.lt_trans hj hlt)
    have hskipped := h.skipped _ _ (le_nextTypeable lines i) hj hnext
    exact Bool.noConfusion (hskipped.symm.trans (isTypeable_nextTypeable hnext))

theorem length_le_nextTypeable_iff :
    lines.length ≤ nextTypeable lines i ↔ ∀ l ∈ lines.drop i, l.isTypeable = false := by
  have hle : (lines.drop i).findIdx Line.isTypeable ≤ (lines.drop i).length :=
    List.findIdx_le_length
  rw [← List.findIdx_eq_length, nextTypeable_eq, List.length_drop]
  rw [List.length_drop] at hle
  omega

theorem nextTypeable_of_lt_length (h : nextTypeable lines i < lines.length) :
    NextTypeable lines i (nextTypeable lines i) where
  le := le_nextTypeable lines i
  typeable := ⟨_, List.getElem?_eq_getElem h, isTypeable_nextTypeable (List.getElem?_eq_getElem h)⟩
  skipped _ _ hi hk hl := isTypeable_eq_false hi hk hl

theorem nextTypeable_cases (lines : List Line) (i : Nat) :
    NextTypeable lines i (nextTypeable lines i) ∨ ∀ l ∈ lines.drop i, l.isTypeable = false := by
  by_cases h : nextTypeable lines i < lines.length
  · exact .inl (nextTypeable_of_lt_length h)
  · exact .inr (length_le_nextTypeable_iff.1 (Nat.not_lt.1 h))

theorem nextTypeable_of_typeable (h : lines[i]? = some l) (ht : l.isTypeable = true) :
    nextTypeable lines i = i := by
  obtain ⟨hi, rfl⟩ := List.getElem?_eq_some_iff.1 h
  rw [nextTypeable_eq, List.drop_eq_getElem_cons hi, List.findIdx_cons, ht]
  rfl

theorem nextTypeable_of_not_typeable (h : lines[i]? = some l) (ht : l.isTypeable = false) :
    nextTypeable lines i = nextTypeable lines (i + 1) := by
  obtain ⟨hi, rfl⟩ := List.getElem?_eq_some_iff.1 h
  rw [nextTypeable_eq, nextTypeable_eq, List.drop_eq_getElem_cons hi, List.findIdx_cons, ht,
    cond_false]
  omega

theorem firstTypeable_nextTypeable (lines : List Line) :
    FirstTypeable lines (nextTypeable lines 0) := by
  have hskip : ∀ k < nextTypeable lines 0, ∀ m, lines[k]? = some m → m.isTypeable = false :=
    fun k hk m hm => isTypeable_eq_false (Nat.zero_le k) hk hm
  cases h : lines[nextTypeable lines 0]? with
  | some l => exact .inl ⟨l, h, isTypeable_nextTypeable h, hskip⟩
  | none =>
      have hle : nextTypeable lines 0 ≤ lines.length := nextTypeable_le_length (Nat.zero_le _)
      have heq : nextTypeable lines 0 = lines.length :=
        Nat.le_antisymm hle (List.getElem?_eq_none_iff.1 h)
      refine .inr ⟨heq, fun m hm => ?_⟩
      obtain ⟨k, hk, rfl⟩ := List.mem_iff_getElem.1 hm
      exact hskip k (heq ▸ hk) _ (List.getElem?_eq_getElem hk)

def passed (lines : List Line) (i : Nat) : List Line :=
  (lines.drop i).takeWhile fun l => !l.isTypeable

theorem isTypeable_of_mem_passed (h : l ∈ passed lines i) : l.isTypeable = false := by
  have hall := List.all_eq_true.1 (List.all_takeWhile (p := fun l => !Line.isTypeable l)) l h
  simpa using hall

theorem drop_eq_passed_append (lines : List Line) (i : Nat) :
    lines.drop i = passed lines i ++ lines.drop (nextTypeable lines i) := by
  have hrest : lines.drop (nextTypeable lines i) =
      (lines.drop i).dropWhile fun l => !l.isTypeable := by
    rw [nextTypeable_eq, List.dropWhile_eq_drop_findIdx_not, List.drop_drop]
    simp only [Bool.not_not]
  rw [hrest, passed, List.takeWhile_append_dropWhile]

theorem take_nextTypeable (lines : List Line) (i : Nat) :
    lines.take (nextTypeable lines i) = lines.take i ++ passed lines i := by
  have hlength : nextTypeable lines i = i + (passed lines i).length := rfl
  rw [hlength, List.take_add, drop_eq_passed_append lines i, List.take_left]

variable {s : Session}

theorem nextIndex_of_le (h : i ≤ lines.length) : nextIndex lines i = i + 1 := if_pos (.inl h)

theorem nextIndex_of_lt (h : i + 1 < UInt64.size) : nextIndex lines i = i + 1 := if_pos (.inr h)

/-- A list that is shorter than the words go has no say in what comes after an index. -/
theorem nextIndex_eq_mod (h : lines.length + 1 < UInt64.size) (hi : i < UInt64.size) :
    nextIndex lines i = (i + 1) % UInt64.size := by
  by_cases hnext : i + 1 < UInt64.size
  · rw [nextIndex_of_lt hnext, Nat.mod_eq_of_lt hnext]
  · have hlast : i + 1 = UInt64.size := by omega
    rw [nextIndex, if_neg (by omega), hlast, Nat.mod_self]

theorem drop_of_current (h : lines[i]? = some l) : lines.drop i = l :: lines.drop (i + 1) := by
  obtain ⟨hlt, rfl⟩ := List.getElem?_eq_some_iff.1 h
  exact List.drop_eq_getElem_cons hlt

/-- A loop looks at the line under the cursor in each round, and ends where there is none. -/
theorem whileEmpty_eq {step : Session → Session}
    (hstep : ∀ s : Session, (step s).line = nextIndex lines s.line) (s : Session) :
    s.whileEmpty step (lines.drop s.line) =
      match s.current? lines with
      | some l =>
        if l.isTypeable then s else (step s).whileEmpty step (lines.drop (step s).line)
      | none => s := by
  cases hl : s.current? lines with
  | none =>
      rw [List.drop_eq_nil_of_le (List.getElem?_eq_none_iff.1 hl)]
      rfl
  | some l =>
      have hle : s.line ≤ lines.length := Nat.le_of_lt (List.getElem?_eq_some_iff.1 hl).1
      rw [hstep, nextIndex_of_le hle, drop_of_current hl]
      rfl

/-- The rule of the loop. What a step from a line with nothing to type keeps holds in the end, and
the cursor then stands on the next line with something to type. -/
theorem whileEmpty_preserves {step : Session → Session} {I : Session → Prop}
    (hstep : ∀ t : Session, (step t).line = nextIndex lines t.line)
    (hkeep : ∀ t l, t.current? lines = some l → l.isTypeable = false → I t → I (step t))
    (h : I s) :
    (s.whileEmpty step (lines.drop s.line)).line = nextTypeable lines s.line ∧
      I (s.whileEmpty step (lines.drop s.line)) := by
  -- the list of the loop is that of the lines from the cursor on
  generalize hrest : lines.drop s.line = rest
  induction rest generalizing s with
  | nil => exact ⟨(nextTypeable_of_length_le (List.drop_eq_nil_iff.1 hrest)).symm, h⟩
  | cons l rest ih =>
      have hl : lines[s.line]? = some l := by rw [← List.head?_drop, hrest, List.head?_cons]
      cases ht : l.isTypeable with
      | true =>
          rw [whileEmpty, if_pos ht]
          exact ⟨(nextTypeable_of_typeable hl ht).symm, h⟩
      | false =>
          have hle : s.line ≤ lines.length := Nat.le_of_lt (List.getElem?_eq_some_iff.1 hl).1
          have hline : (step s).line = s.line + 1 := (hstep s).trans (nextIndex_of_le hle)
          have hdrop : lines.drop (step s).line = rest := by
            rw [hline, ← List.tail_drop, hrest, List.tail_cons]
          obtain ⟨hend, hkept⟩ := ih (hkeep s l hl ht h) hdrop
          rw [whileEmpty, if_neg (Bool.eq_false_iff.1 ht)]
          refine ⟨?_, hkept⟩
          rw [hend, hline, nextTypeable_of_not_typeable hl ht]

theorem skipToTypeable_eq (s : Session) (lines : List Line) :
    s.skipToTypeable lines = { s with line := nextTypeable lines s.line } := by
  have hkeep (t : Session) (l : Line) (_ : t.current? lines = some l) (_ : l.isTypeable = false)
      (ht : t = { s with line := t.line }) :
      t.skip lines = { s with line := (t.skip lines).line } := by
    rw [skip, ht]
  obtain ⟨hline, heq⟩ := whileEmpty_preserves (fun _ => rfl) hkeep (s := s) rfl
  rw [skipToTypeable, heq, hline]

def passedTo (s : Session) (j : Nat) : Session :=
  { s with line := j, completed := s.completed.insertMany (List.range' s.line (j - s.line)) }

theorem pass_passedTo (hs : s.line ≤ j) (hnext : nextIndex lines j = j + 1) :
    (s.passedTo j).pass lines = s.passedTo (j + 1) := by
  have hlast : s.line + (j - s.line) = j := Nat.add_sub_cancel' hs
  have hmarked : (s.completed.insertMany (List.range' s.line (j - s.line))).insert j =
      s.completed.insertMany (List.range' s.line (j + 1 - s.line)) := by
    rw [Nat.succ_sub hs, List.range'_1_concat, hlast, SortedSet.insertMany, SortedSet.insertMany,
      List.foldl_append, List.foldl_cons, List.foldl_nil]
  rw [pass, skip, passedTo, passedTo, hmarked, hnext]

/-- Passing completes the lines from where the cursor stood to where it comes to stand. -/
theorem whileEmpty_pass (s : Session) (lines : List Line) :
    s.whileEmpty (pass lines) (lines.drop s.line) = s.passedTo (nextTypeable lines s.line) := by
  have hkeep (t : Session) (l : Line) (hl : t.current? lines = some l) (_ : l.isTypeable = false)
      (ht : s.line ≤ t.line ∧ t = s.passedTo t.line) :
      s.line ≤ (t.pass lines).line ∧ t.pass lines = s.passedTo (t.pass lines).line := by
    have hle : t.line ≤ lines.length := Nat.le_of_lt (List.getElem?_eq_some_iff.1 hl).1
    have hline : (t.pass lines).line = t.line + 1 := nextIndex_of_le hle
    have hpass : (s.passedTo t.line).pass lines = s.passedTo (t.line + 1) :=
      pass_passedTo ht.1 (nextIndex_of_le hle)
    rw [← ht.2] at hpass
    exact hline ▸ ⟨Nat.le_succ_of_le ht.1, hpass⟩
  have hstart : s = s.passedTo s.line := by
    rw [passedTo, Nat.sub_self]
    rfl
  obtain ⟨hline, -, heq⟩ := whileEmpty_preserves (fun _ => rfl) hkeep ⟨Nat.le_refl _, hstart⟩
  rw [heq, hline]

end Session

end TypingTrainer
