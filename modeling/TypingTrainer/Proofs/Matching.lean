import TypingTrainer.Proofs.Counts
import TypingTrainer.Proofs.Finishing
import TypingTrainer.Proofs.Generation

namespace TypingTrainer

open List (replicate)

variable {wanted text : List Char} {c d : Char} {m n : Nat}

/-- The first `m` characters of the text hold `wanted` in its order, and no fewer do. -/
def Shortest (wanted text : List Char) (m : Nat) : Prop :=
  m ≤ text.length ∧ wanted.Sublist (text.take m) ∧ ∀ k < m, ¬ wanted.Sublist (text.take k)

/-- The text holds the first `n` characters of `wanted` in their order, and no more of them. -/
def Longest (wanted text : List Char) (n : Nat) : Prop :=
  n ≤ wanted.length ∧ (wanted.take n).Sublist text ∧
    ∀ k ≤ wanted.length, (wanted.take k).Sublist text → k ≤ n

theorem sublist_miss (hd : d ≠ c) :
    (c :: wanted).Sublist (d :: text) ↔ (c :: wanted).Sublist text := by
  constructor
  · intro h
    cases h with
    | cons _ h => exact h
    | cons_cons => exact absurd rfl hd
  · exact fun h => h.cons d

theorem Shortest.pos (h : Shortest (c :: wanted) text m) : 0 < m := by
  refine Nat.pos_of_ne_zero fun hm => ?_
  subst hm
  simpa using h.2.1

theorem Shortest.length_le (h : Shortest wanted text m) : wanted.length ≤ m :=
  Nat.le_trans h.2.1.length_le (List.length_take_le _ _)

theorem Shortest.single (c : Char) (text : List Char) : Shortest [c] (c :: text) 1 := by
  refine ⟨Nat.succ_le_of_lt (Nat.succ_pos _), by simp, fun k hk => ?_⟩
  obtain rfl : k = 0 := Nat.lt_one_iff.1 hk
  simp

theorem Shortest.hit (h : Shortest wanted text m) : Shortest (c :: wanted) (c :: text) (m + 1) := by
  obtain ⟨hlen, hsub, hleast⟩ := h
  refine ⟨Nat.succ_le_succ hlen, hsub.cons_cons c, fun k hk => ?_⟩
  cases k with
  | zero => simp
  | succ k =>
      rw [List.take_succ_cons, List.cons_sublist_cons]
      exact hleast k (Nat.lt_of_succ_lt_succ hk)

theorem Shortest.miss (hd : d ≠ c) (h : Shortest (c :: wanted) text m) :
    Shortest (c :: wanted) (d :: text) (m + 1) := by
  obtain ⟨hlen, hsub, hleast⟩ := h
  refine ⟨Nat.succ_le_succ hlen, hsub.cons d, fun k hk => ?_⟩
  cases k with
  | zero => simp
  | succ k =>
      rw [List.take_succ_cons, sublist_miss hd]
      exact hleast k (Nat.lt_of_succ_lt_succ hk)

theorem Longest.none (wanted : List Char) : Longest wanted [] 0 := by
  refine ⟨Nat.zero_le _, List.nil_sublist _, fun k hk hsub => ?_⟩
  have hlen := hsub.length_le
  rw [List.length_take, Nat.min_eq_left hk] at hlen
  exact hlen

theorem Longest.le (h : Longest wanted text n) : n ≤ text.length := by
  have hlen := h.2.1.length_le
  rwa [List.length_take, Nat.min_eq_left h.1] at hlen

theorem Longest.hit (h : Longest wanted text n) : Longest (c :: wanted) (c :: text) (n + 1) := by
  obtain ⟨hlen, hsub, hmost⟩ := h
  refine ⟨Nat.succ_le_succ hlen, hsub.cons_cons c, fun k hk hsub' => ?_⟩
  cases k with
  | zero => exact Nat.zero_le _
  | succ k =>
      rw [List.take_succ_cons, List.cons_sublist_cons] at hsub'
      exact Nat.succ_le_succ (hmost k (Nat.le_of_succ_le_succ hk) hsub')

theorem Longest.miss (hd : d ≠ c) (h : Longest (c :: wanted) text n) :
    Longest (c :: wanted) (d :: text) n := by
  obtain ⟨hlen, hsub, hmost⟩ := h
  refine ⟨hlen, hsub.cons d, fun k hk hsub' => ?_⟩
  cases k with
  | zero => exact Nat.zero_le _
  | succ k =>
      rw [List.take_succ_cons, sublist_miss hd] at hsub'
      exact hmost (k + 1) hk hsub'

abbrev Stroke := Char × Instant

def Plain (strokes : List Stroke) : Prop :=
  ∀ k ∈ strokes, k.1 = '\n' ∨ Text.isControl k.1 = false

theorem Plain.head {k : Stroke} {strokes : List Stroke} (h : Plain (k :: strokes)) :
    k.1 = '\n' ∨ Text.isControl k.1 = false := h k List.mem_cons_self

theorem Plain.tail {k : Stroke} {strokes : List Stroke} (h : Plain (k :: strokes)) :
    Plain strokes := fun j hj => h j (List.mem_cons_of_mem _ hj)

theorem Plain.take {strokes : List Stroke} (h : Plain strokes) (n : Nat) :
    Plain (strokes.take n) := fun k hk => h k (List.mem_of_mem_take hk)

theorem Plain.drop {strokes : List Stroke} (h : Plain strokes) (n : Nat) :
    Plain (strokes.drop n) := fun k hk => h k (List.mem_of_mem_drop hk)

/-- How a text is taken where `wanted` is still to be typed. `after n` is what there is after `n` of
its characters. If they hold all that is wanted, the last one that is needed finishes the line,
those before it are right or count as errors, and those behind it change nothing. If not, the cursor
has gone as far as it could. -/
structure Matched {σ : Type} (session : σ → Session) (wanted text : List Char) (after : Nat → σ)
    (answers : List Outcome) : Prop where
  finished : wanted.Sublist text → ∃ m, Shortest wanted text m ∧
    answers = replicate (m - 1) .handled ++
      .lineFinished :: replicate (text.length - m) .ignored ∧
    (∀ n, m ≤ n → after n = after m) ∧
    (session (after m)).typed = (session (after 0)).typed + wanted.length ∧
    (session (after m)).errors = (session (after 0)).errors + (m - wanted.length)
  unfinished : ¬ wanted.Sublist text → ∃ n, Longest wanted text n ∧
    answers = replicate text.length .handled ∧
    (session (after text.length)).char = (session (after 0)).char + n ∧
    (session (after text.length)).typed = (session (after 0)).typed + n ∧
    (session (after text.length)).errors = (session (after 0)).errors + (text.length - n)

/-- Words that have room for the text when it begins can hold the counts. -/
structure Takes {σ : Type} (session : σ → Session) (wanted text : List Char) (after : Nat → σ)
    (answers : List Outcome) : Prop extends Matched session wanted text after answers where
  fits : (session (after 0)).Fits text.length → (session (after text.length)).Fits 0

theorem Matched.takes {σ : Type} {session : σ → Session} {after : Nat → σ}
    {answers : List Outcome} (h : Matched session wanted text after answers) :
    Takes session wanted text after answers where
  toMatched := h
  fits := by
    rintro ⟨htyped, herrors⟩
    by_cases hsub : wanted.Sublist text
    · obtain ⟨m, hm, -, hlater, htyped', herrors'⟩ := h.finished hsub
      have hlength := hm.length_le
      have hle := hm.1
      rw [hlater text.length hle]
      constructor <;> omega
    · obtain ⟨n, hn, -, -, htyped', herrors'⟩ := h.unfinished hsub
      have hle := hn.le
      constructor <;> omega

namespace Session

variable {s : Session} {lines : List Line} {l : Line} {strokes : List Stroke} {k : Stroke}

def typeStrokes (s : Session) (lines : List Line) : List Stroke → Reply (List Outcome)
  | [] => ⟨s, [], []⟩
  | k :: rest =>
    let first := s.handleKey lines (.plain k.1) k.2
    let more := first.session.typeStrokes lines rest
    ⟨more.session, first.answer :: more.answer, first.events ++ more.events⟩

theorem typeStrokes_cons {t : Session} {a : Outcome} {es : List Event}
    (h : s.handleKey lines (.plain k.1) k.2 = ⟨t, a, es⟩) (rest : List Stroke) :
    s.typeStrokes lines (k :: rest) =
      ⟨(t.typeStrokes lines rest).session, a :: (t.typeStrokes lines rest).answer,
        es ++ (t.typeStrokes lines rest).events⟩ := by
  rw [typeStrokes, h]

theorem typeStrokes_append (s : Session) (lines : List Line) (xs ys : List Stroke) :
    s.typeStrokes lines (xs ++ ys) =
      let first := s.typeStrokes lines xs
      let more := first.session.typeStrokes lines ys
      ⟨more.session, first.answer ++ more.answer, first.events ++ more.events⟩ := by
  induction xs generalizing s with
  | nil => rfl
  | cons k xs ih => simp only [List.cons_append, typeStrokes, ih, List.append_assoc]

/-- The session can be typed on: it is running, or it is idle and its start leaves it running. -/
def Typing (s : Session) : Prop := s.phase = .idle ∧ s.paused = false ∨ s.phase = .running

theorem phase_start (h : s.phase = .idle) (hp : s.paused = false) (now : Instant) :
    (s.start now).phase = .running :=
  phase_eq_running.2 ⟨(phase_eq_idle.1 h).1, rfl, hp⟩

theorem handleKey_plain (h : s.phase = .running) (hk : k.1 = '\n' ∨ Text.isControl k.1 = false)
    (lines : List Line) : s.handleKey lines (.plain k.1) k.2 = s.typeChar lines k.1 := by
  rw [handleKey, h, Key.classify_plain (.inr rfl) hk]
  rfl

theorem handleKey_plain_start (h : s.phase = .idle) (hp : s.paused = false)
    (hk : k.1 = '\n' ∨ Text.isControl k.1 = false) (lines : List Line) :
    s.handleKey lines (.plain k.1) k.2 =
      let r := (s.start k.2).handleKey lines (.plain k.1) k.2
      { r with events := .testStarted :: r.events } := by
  rw [handleKey_plain (phase_start h hp k.2) hk, handleKey, h, Key.classify_plain (.inl rfl) hk]
  rfl

structure Done (s : Session) (lines : List Line) (l : Line) : Prop where
  running : s.phase = .running
  current : s.current? lines = some l
  past : l.typingLen ≤ s.char

theorem Done.typeChar (h : s.Done lines l) (c : Char) :
    s.typeChar lines c = ⟨s, .ignored, []⟩ := by
  have hnone : l.expected? s.char = none := by
    rw [← Option.not_isSome_iff_eq_none, l.expected?_isSome_iff]
    exact Nat.not_lt.2 h.past
  rw [Session.typeChar, h.current]
  dsimp only
  rw [hnone]

theorem Done.typeStrokes (h : s.Done lines l) (hk : Plain strokes) :
    s.typeStrokes lines strokes = ⟨s, replicate strokes.length .ignored, []⟩ := by
  induction strokes with
  | nil => rfl
  | cons k rest ih =>
      rw [Session.typeStrokes, handleKey_plain h.running hk.head, h.typeChar]
      dsimp only
      rw [ih hk.tail]
      rfl

structure Finished (s t : Session) (lines : List Line) (l : Line) (wanted : List Char) (m : Nat) :
    Prop where
  done : t.Done lines l
  typed_eq : t.typed = s.typed + wanted.length
  errors_eq : t.errors = s.errors + (m - wanted.length)

section Running

variable (h : s.phase = .running) (hl : s.current? lines = some l)
  (hw : l.sequence.toList.drop s.char = c :: wanted)

include hw in
theorem expected?_of_drop : l.expected? s.char = some c := by
  rw [Line.expected?, ← Nat.add_zero s.char, ← List.getElem?_drop, hw]
  rfl

include hw in
theorem drop_hit : l.sequence.toList.drop s.hit.char = wanted := by
  rw [hit, ← List.drop_drop, hw]
  rfl

include hw in
theorem typingLen_eq : l.typingLen = s.char + (wanted.length + 1) := by
  have hlen : (l.sequence.toList.drop s.char).length = wanted.length + 1 := by rw [hw]; rfl
  rw [List.length_drop, String.length_toList] at hlen
  rw [Line.typingLen]
  omega

include h hl hw in
theorem handleKey_hit (hk : k.1 = '\n' ∨ Text.isControl k.1 = false) (hc : k.1 = c) :
    s.handleKey lines (.plain k.1) k.2 =
      ⟨s.hit, if wanted = [] then .lineFinished else .handled, [.charTyped true]⟩ := by
  have hend : s.char + 1 = l.typingLen ↔ wanted = [] := by
    rw [typingLen_eq hw, ← List.length_eq_zero_iff]
    omega
  rw [handleKey_plain h hk, typeChar, hl]
  dsimp only
  rw [expected?_of_drop hw]
  simp only [hc, if_true, hend, hit]

include h hl hw in
theorem handleKey_miss (hk : k.1 = '\n' ∨ Text.isControl k.1 = false) (hc : k.1 ≠ c) :
    s.handleKey lines (.plain k.1) k.2 = ⟨s.miss, .handled, [.charTyped false]⟩ := by
  rw [handleKey_plain h hk, typeChar, hl]
  dsimp only
  rw [expected?_of_drop hw]
  simp only [hc, if_false, miss]

end Running

theorem typeStrokes_finishes (h : s.phase = .running) (hl : s.current? lines = some l)
    (hw : l.sequence.toList.drop s.char = c :: wanted) (hk : Plain strokes)
    (hsub : (c :: wanted).Sublist (strokes.map Prod.fst)) :
    ∃ m, Shortest (c :: wanted) (strokes.map Prod.fst) m ∧
      (s.typeStrokes lines (strokes.take m)).answer =
        replicate (m - 1) .handled ++ [.lineFinished] ∧
      Finished s (s.typeStrokes lines (strokes.take m)).session lines l (c :: wanted) m := by
  -- after a hit the rest is wanted, after a miss the same again
  induction strokes generalizing s c wanted with
  | nil => exact nomatch hsub
  | cons k rest ih =>
      rw [List.map_cons] at hsub ⊢
      by_cases hc : k.1 = c
      · have hfirst := handleKey_hit h hl hw hk.head hc
        rw [hc] at hsub ⊢
        cases wanted with
        | nil =>
            -- the last character that was wanted
            have hpast : l.typingLen ≤ s.hit.char := Nat.le_of_eq (typingLen_eq hw)
            refine ⟨1, .single c _, ?_⟩
            rw [List.take_succ_cons, List.take_zero, typeStrokes_cons hfirst]
            exact ⟨rfl, ⟨h, hl, hpast⟩, rfl, rfl⟩
        | cons e wanted =>
            obtain ⟨m, hm, hanswer, hdone, htyped, herrors⟩ := ih (s := s.hit) h hl (drop_hit hw)
              hk.tail (List.cons_sublist_cons.1 hsub)
            refine ⟨m + 1, hm.hit, ?_⟩
            rw [List.take_succ_cons, typeStrokes_cons hfirst]
            refine ⟨?_, hdone, ?_, ?_⟩
            · rw [hanswer, if_neg (List.cons_ne_nil _ _), ← List.cons_append, ← List.replicate_succ,
                Nat.sub_add_cancel hm.pos, Nat.add_sub_cancel]
            · simp only [htyped, hit_typed, List.length_cons]
              omega
            · simp only [herrors, hit_errors, List.length_cons, Nat.add_sub_add_right]
      · have hfirst := handleKey_miss h hl hw hk.head hc
        obtain ⟨m, hm, hanswer, hdone, htyped, herrors⟩ := ih (s := s.miss) h hl hw hk.tail
          ((sublist_miss hc).1 hsub)
        have hlen := hm.length_le
        refine ⟨m + 1, hm.miss hc, ?_⟩
        rw [List.take_succ_cons, typeStrokes_cons hfirst]
        refine ⟨?_, hdone, htyped, ?_⟩
        · rw [hanswer, ← List.cons_append, ← List.replicate_succ, Nat.sub_add_cancel hm.pos,
            Nat.add_sub_cancel]
        · rw [herrors, miss_errors]
          omega

theorem typeStrokes_stays (h : s.phase = .running) (hl : s.current? lines = some l)
    (hw : l.sequence.toList.drop s.char = c :: wanted) (hk : Plain strokes)
    (hsub : ¬ (c :: wanted).Sublist (strokes.map Prod.fst)) :
    ∃ n, Longest (c :: wanted) (strokes.map Prod.fst) n ∧
      (s.typeStrokes lines strokes).answer = replicate strokes.length .handled ∧
      (s.typeStrokes lines strokes).session.char = s.char + n ∧
      (s.typeStrokes lines strokes).session.typed = s.typed + n ∧
      (s.typeStrokes lines strokes).session.errors = s.errors + (strokes.length - n) := by
  induction strokes generalizing s c wanted with
  | nil => exact ⟨0, .none _, rfl, rfl, rfl, rfl⟩
  | cons k rest ih =>
      rw [List.map_cons] at hsub ⊢
      by_cases hc : k.1 = c
      · have hfirst := handleKey_hit h hl hw hk.head hc
        rw [hc] at hsub ⊢
        rw [List.cons_sublist_cons] at hsub
        cases wanted with
        | nil => exact absurd (List.nil_sublist _) hsub
        | cons e wanted =>
            obtain ⟨n, hn, hanswer, hchar, htyped, herrors⟩ :=
              ih (s := s.hit) h hl (drop_hit hw) hk.tail hsub
            refine ⟨n + 1, hn.hit, ?_⟩
            rw [typeStrokes_cons hfirst, List.length_cons]
            refine ⟨?_, ?_, ?_, ?_⟩
            · rw [hanswer, if_neg (List.cons_ne_nil _ _), List.replicate_succ]
            · rw [hchar, hit_char, Nat.add_right_comm, Nat.add_assoc]
            · rw [htyped, hit_typed, Nat.add_right_comm, Nat.add_assoc]
            · rw [herrors, hit_errors, Nat.add_sub_add_right]
      · have hfirst := handleKey_miss h hl hw hk.head hc
        obtain ⟨n, hn, hanswer, hchar, htyped, herrors⟩ := ih (s := s.miss) h hl hw hk.tail
          (fun hrest => hsub ((sublist_miss hc).2 hrest))
        have hle := hn.le
        rw [List.length_map] at hle
        refine ⟨n, hn.miss hc, ?_⟩
        rw [typeStrokes_cons hfirst, List.length_cons]
        refine ⟨?_, ?_, ?_, ?_⟩
        · rw [hanswer, List.replicate_succ]
        · rw [hchar, miss_char]
        · rw [htyped, miss_typed]
        · rw [herrors, miss_errors]
          omega

theorem typeStrokes_start (h : s.phase = .idle) (hp : s.paused = false)
    (hk : Plain (k :: strokes)) (lines : List Line) :
    s.typeStrokes lines (k :: strokes) =
      let r := (s.start k.2).typeStrokes lines (k :: strokes)
      { r with events := .testStarted :: r.events } := by
  rw [typeStrokes, handleKey_plain_start h hp hk.head]
  rfl

theorem Typing.finishes (h : s.Typing) (hl : s.current? lines = some l)
    (hw : l.sequence.toList.drop s.char = c :: wanted) (hk : Plain strokes)
    (hsub : (c :: wanted).Sublist (strokes.map Prod.fst)) :
    ∃ m, Shortest (c :: wanted) (strokes.map Prod.fst) m ∧
      (s.typeStrokes lines strokes).answer = replicate (m - 1) .handled ++
        .lineFinished :: replicate (strokes.length - m) .ignored ∧
      Finished s (s.typeStrokes lines (strokes.take m)).session lines l (c :: wanted) m := by
  have hfirst : ∃ m, Shortest (c :: wanted) (strokes.map Prod.fst) m ∧
      (s.typeStrokes lines (strokes.take m)).answer =
        replicate (m - 1) .handled ++ [.lineFinished] ∧
      Finished s (s.typeStrokes lines (strokes.take m)).session lines l (c :: wanted) m := by
    rcases h with ⟨hidle, hp⟩ | hrunning
    · cases strokes with
      | nil => exact nomatch hsub
      | cons k rest =>
          obtain ⟨m, hm, hanswer, hfinished⟩ :=
            typeStrokes_finishes (phase_start hidle hp k.2) hl hw hk hsub
          refine ⟨m, hm, ?_⟩
          obtain ⟨m, rfl⟩ := Nat.exists_eq_succ_of_ne_zero (Nat.ne_of_gt hm.pos)
          rw [List.take_succ_cons] at hanswer hfinished ⊢
          rw [typeStrokes_start hidle hp (hk.take (m + 1))]
          exact ⟨hanswer, hfinished.done, hfinished.typed_eq, hfinished.errors_eq⟩
    · exact typeStrokes_finishes hrunning hl hw hk hsub
  obtain ⟨m, hm, hanswer, hfinished⟩ := hfirst
  refine ⟨m, hm, ?_, hfinished⟩
  -- the line is done then, and the keys that are left are ignored
  have hall := s.typeStrokes_append lines (strokes.take m) (strokes.drop m)
  rw [List.take_append_drop] at hall
  rw [hall]
  dsimp only
  rw [hanswer, hfinished.done.typeStrokes (hk.drop m), List.length_drop, List.append_assoc]
  rfl

theorem Typing.stays (h : s.Typing) (hl : s.current? lines = some l)
    (hw : l.sequence.toList.drop s.char = c :: wanted) (hk : Plain strokes)
    (hsub : ¬ (c :: wanted).Sublist (strokes.map Prod.fst)) :
    ∃ n, Longest (c :: wanted) (strokes.map Prod.fst) n ∧
      (s.typeStrokes lines strokes).answer = replicate strokes.length .handled ∧
      (s.typeStrokes lines strokes).session.char = s.char + n ∧
      (s.typeStrokes lines strokes).session.typed = s.typed + n ∧
      (s.typeStrokes lines strokes).session.errors = s.errors + (strokes.length - n) := by
  rcases h with ⟨hidle, hp⟩ | hrunning
  · cases strokes with
    | nil => exact ⟨0, .none _, rfl, rfl, rfl, rfl⟩
    | cons k rest =>
        rw [typeStrokes_start hidle hp hk]
        exact typeStrokes_stays (phase_start hidle hp k.2) hl hw hk hsub
  · exact typeStrokes_stays hrunning hl hw hk hsub

def afterStrokes (s : Session) (lines : List Line) (strokes : List Stroke) (n : Nat) :
    Session × List Event :=
  let r := s.typeStrokes lines (strokes.take n)
  (r.session, r.events)

theorem Done.afterStrokes {t : Session} (h : t.Done lines l) (hk : Plain strokes)
    (ht : (s.typeStrokes lines (strokes.take m)).session = t) (hn : m ≤ n) :
    s.afterStrokes lines strokes n = s.afterStrokes lines strokes m := by
  obtain ⟨j, rfl⟩ := Nat.exists_eq_add_of_le hn
  rw [Session.afterStrokes, Session.afterStrokes, List.take_add, typeStrokes_append]
  dsimp only
  rw [ht, h.typeStrokes ((hk.drop m).take j), List.append_nil]

theorem drop_ne_nil (h : s.char < l.typingLen) :
    ∃ c wanted, l.sequence.toList.drop s.char = c :: wanted := by
  have hlt : s.char < l.sequence.toList.length := by rwa [String.length_toList]
  exact ⟨_, _, List.drop_eq_getElem_cons hlt⟩

theorem Typing.takes (h : s.Typing) (hl : s.current? lines = some l) (hchar : s.char < l.typingLen)
    (hk : Plain strokes) :
    Takes Prod.fst (l.sequence.toList.drop s.char) (strokes.map Prod.fst)
      (s.afterStrokes lines strokes) (s.typeStrokes lines strokes).answer := by
  obtain ⟨c, wanted, hw⟩ := drop_ne_nil hchar
  rw [hw]
  refine Matched.takes ⟨?_, ?_⟩
  · intro hsub
    obtain ⟨m, hm, hanswer, hfinished⟩ := h.finishes hl hw hk hsub
    rw [List.length_map]
    exact ⟨m, hm, hanswer, fun n hn => hfinished.done.afterStrokes hk rfl hn, hfinished.typed_eq,
      hfinished.errors_eq⟩
  · intro hsub
    rw [afterStrokes, List.length_map, List.take_length]
    exact h.stays hl hw hk hsub

end Session

namespace Practice

variable {p : Practice} {l : Line} {strokes : List Stroke}

def strokeActions (strokes : List Stroke) : List Action :=
  strokes.map fun k => .key (.plain k.1) k.2

theorem classify_plain_ne_reset (c : Char) (phase : Phase) :
    (Key.plain c).classify phase ≠ .reset := by
  by_cases hc : c = '\n' <;> cases phase <;>
    simp [Key.classify, Key.plain, hc, Key.resetCode, Key.pauseCode, Modifiers.command] <;>
    split <;> simp

theorem run_strokes (p : Practice) (strokes : List Stroke) :
    (p.run (strokeActions strokes)).practice.session =
      (p.session.typeStrokes p.lines strokes).session ∧
    (p.run (strokeActions strokes)).practice.lines = p.lines ∧
    (p.run (strokeActions strokes)).answer =
      (p.session.typeStrokes p.lines strokes).answer.map .outcome ∧
    (p.run (strokeActions strokes)).events = (p.session.typeStrokes p.lines strokes).events ∧
    (p.run (strokeActions strokes)).calls = [] := by
  induction strokes generalizing p with
  | nil => exact ⟨rfl, rfl, rfl, rfl, rfl⟩
  | cons k rest ih =>
      have hreset : (p.session.handleKey p.lines (.plain k.1) k.2).answer ≠ .resetRequested :=
        fun h => classify_plain_ne_reset k.1 _
          ((Session.handleKey_answer_eq_reset_iff _ _ _ _).1 h)
      have hfollow : ∀ r : Session.Reply Outcome, r.answer ≠ .resetRequested →
          (p.follow r k.2).practice.session = r.session ∧
          (p.follow r k.2).practice.lines = p.lines := by
        intro r hr
        cases ha : r.answer <;> simp_all [follow]
      obtain ⟨hsession, hlines⟩ := hfollow _ hreset
      rw [← handleKey_eq] at hsession hlines
      obtain ⟨ihsession, ihlines, ihanswer, ihevents, ihcalls⟩ :=
        ih (p.handleKey (.plain k.1) k.2).practice
      rw [hsession, hlines] at ihsession ihanswer ihevents
      refine ⟨ihsession, ihlines.trans hlines, ?_, ?_, ihcalls⟩
      · exact congrArg _ ihanswer
      · exact congrArg _ ihevents

def afterStrokes (p : Practice) (strokes : List Stroke) (n : Nat) :
    Practice × List Event × List Call :=
  let r := p.run (strokeActions (strokes.take n))
  (r.practice, r.events, r.calls)

theorem run_done (h : p.session.Done p.lines l) (hk : Plain strokes) :
    (p.run (strokeActions strokes)).practice = p := by
  induction strokes with
  | nil => rfl
  | cons k rest ih =>
      have hkey : p.session.handleKey p.lines (.plain k.1) k.2 = ⟨p.session, .ignored, []⟩ := by
        rw [Session.handleKey_plain h.running hk.head, h.typeChar]
      have hstep : (p.step (.key (.plain k.1) k.2)).practice = p := by
        simp only [step, Reply.map, handleKey_eq, hkey, follow]
      simp only [strokeActions, List.map_cons, run, hstep]
      exact ih hk.tail

theorem takes (h : p.session.Typing) (hl : p.current? = some l)
    (hchar : p.session.char < l.typingLen) (hk : Plain strokes) :
    ∃ answers, (p.run (strokeActions strokes)).answer = answers.map .outcome ∧
      Takes (fun x => x.1.session) (l.sequence.toList.drop p.session.char)
        (strokes.map Prod.fst) (p.afterStrokes strokes) answers := by
  obtain ⟨c, wanted, hw⟩ := Session.drop_ne_nil hchar
  have hsession (n : Nat) : (p.afterStrokes strokes n).1.session =
      (p.session.typeStrokes p.lines (strokes.take n)).session := (p.run_strokes _).1
  obtain ⟨-, -, hanswers, -, -⟩ := p.run_strokes strokes
  refine ⟨_, hanswers, ?_⟩
  rw [hw]
  refine Matched.takes ⟨?_, ?_⟩
  · intro hsub
    obtain ⟨m, hm, hanswer, hfinished⟩ := h.finishes hl hw hk hsub
    simp only [List.length_map, hsession]
    refine ⟨m, hm, hanswer, fun n hn => ?_, hfinished.typed_eq, hfinished.errors_eq⟩
    obtain ⟨hm₁, hm₂, -, hm₃, hm₄⟩ := p.run_strokes (strokes.take m)
    obtain ⟨-, -, -, hn₁, hn₂⟩ := p.run_strokes (strokes.take n)
    have hevents := congrArg Prod.snd (hfinished.done.afterStrokes hk rfl hn)
    rw [afterStrokes, afterStrokes, hm₃, hm₄, hn₁, hn₂]
    obtain ⟨j, rfl⟩ := Nat.exists_eq_add_of_le hn
    have hdone : (p.run (strokeActions (strokes.take m))).practice.session.Done
        (p.run (strokeActions (strokes.take m))).practice.lines l := by
      rw [hm₁, hm₂]
      exact hfinished.done
    have hpractice : (p.run (strokeActions (strokes.take (m + j)))).practice =
        (p.run (strokeActions (strokes.take m))).practice := by
      rw [List.take_add, strokeActions, List.map_append, run_append]
      exact run_done hdone ((hk.drop m).take j)
    rw [hpractice]
    exact congrArg (fun es => (_, es, _)) hevents
  · intro hsub
    simp only [List.length_map, hsession, List.take_length]
    exact h.stays hl hw hk hsub

end Practice

end TypingTrainer
