import TypingTrainer.Proofs.Counts
import TypingTrainer.Proofs.Keyboard

namespace TypingTrainer

namespace Key

structure Types (k : Key) (c : Char) : Prop where
  press : k.kind = .press
  free : k.modifiers.command = false
  code : k.code = .char c ∧ Text.isControl c = false ∨ k.code = .enter ∧ c = '\n'

structure Pauses (k : Key) : Prop where
  press : k.kind = .press
  free : k.modifiers.command = false
  code : k.code = pauseCode

variable {k : Key} {phase : Phase} {c : Char}

theorem classify_type_iff : k.classify phase = .type c ↔
    (phase = .idle ∨ phase = .running) ∧ k.Types c := by
  constructor
  · intro h
    have hphase := phase_of_classify_type h
    have hrunning : k.classify .running = .type c := by
      rcases hphase with rfl | rfl
      · exact classify_running h
      · exact h
    obtain ⟨hkind, hcommand, hcode⟩ := classify_running_iff.1 hrunning
    exact ⟨hphase, hkind, hcommand, hcode⟩
  · rintro ⟨rfl | rfl, hkind, hcommand, ⟨hcode, hcontrol⟩ | ⟨hcode, rfl⟩⟩ <;>
      simp [classify, resetCode, pauseCode, *]

theorem classify_not_press (h : k.kind ≠ .press) : k.classify phase = .ignore := by
  unfold classify
  rw [if_pos h]

theorem classify_command (h : k.modifiers.command = true)
    (hreset : ¬ (phase = .paused ∧ k.code = resetCode)) : k.classify phase = .ignore := by
  by_cases hkind : k.kind = .press
  · unfold classify
    rw [if_neg (fun hne => hne hkind), if_neg hreset, if_pos h]
  · exact classify_not_press hkind

theorem Pauses.of_classify (h : k.classify phase = .togglePause) : k.Pauses := by
  have hkind : k.kind = .press := Decidable.byContradiction fun hkind =>
    nomatch (classify_not_press hkind).symm.trans h
  have hreset : ¬ (phase = .paused ∧ k.code = resetCode) := by
    intro hreset
    unfold classify at h
    rw [if_neg (fun hne => hne hkind), if_pos hreset] at h
    exact nomatch h
  have hcommand : k.modifiers.command = false := Bool.eq_false_iff.2 fun hcommand =>
    nomatch (classify_command hcommand hreset).symm.trans h
  refine ⟨hkind, hcommand, ?_⟩
  unfold classify at h
  rw [if_neg (fun hne => hne hkind), if_neg hreset, if_neg (by simp [hcommand])] at h
  cases hcode : k.code with
  | tab => rfl
  | char c =>
      cases hcontrol : Text.isControl c <;> cases phase <;>
        simp [hcode, hcontrol, resetCode, pauseCode] at h
  | _ => cases phase <;> simp [hcode, resetCode, pauseCode] at h

theorem classify_togglePause_iff : k.classify phase = .togglePause ↔
    (phase = .running ∨ phase = .paused) ∧ k.Pauses := by
  constructor
  · intro h
    have hpauses := Pauses.of_classify h
    refine ⟨?_, hpauses⟩
    cases phase with
    | running => exact .inl rfl
    | paused => exact .inr rfl
    | idle | complete =>
        simp [classify, resetCode, pauseCode, hpauses.press, hpauses.free, hpauses.code] at h
  · rintro ⟨rfl | rfl, hkind, hcommand, hcode⟩ <;>
      simp [classify, resetCode, pauseCode, hkind, hcommand, hcode]

theorem classify_paused (h : ¬ k.Pauses) : k.classify .paused =
    if k.kind = .press ∧ k.code = resetCode then .reset else .ignore := by
  have hpauses : k.kind = .press → k.modifiers.command = false → k.code ≠ pauseCode :=
    fun hkind hcommand hcode => h ⟨hkind, hcommand, hcode⟩
  grind [classify]

end Key

namespace Session

def expected? (s : Session) (lines : List Line) : Option Char :=
  (s.current? lines).bind fun l => l.expected? s.char

def begun (s : Session) (now : Instant) : Session := if s.phase = .idle then s.start now else s

def opening (s : Session) : List Event := if s.phase = .idle then [.testStarted] else []

variable {s : Session} {lines : List Line} {k : Key} {now : Instant} {r : Reply Outcome}
variable {l : Line} {c : Char}

@[simp] theorem begun_line (s : Session) (now : Instant) : (s.begun now).line = s.line := by
  unfold begun; split <;> rfl

@[simp] theorem begun_completed (s : Session) (now : Instant) :
    (s.begun now).completed = s.completed := by
  unfold begun; split <;> rfl

@[simp] theorem begun_endedAt (s : Session) (now : Instant) :
    (s.begun now).endedAt = s.endedAt := by
  unfold begun; split <;> rfl

@[simp] theorem begun_char (s : Session) (now : Instant) : (s.begun now).char = s.char := by
  unfold begun; split <;> rfl

@[simp] theorem begun_typed (s : Session) (now : Instant) : (s.begun now).typed = s.typed := by
  unfold begun; split <;> rfl

@[simp] theorem begun_errors (s : Session) (now : Instant) : (s.begun now).errors = s.errors := by
  unfold begun; split <;> rfl

theorem begun_current? (s : Session) (lines : List Line) (now : Instant) :
    (s.begun now).current? lines = s.current? lines :=
  congrArg (lines[·]?) (s.begun_line now)

theorem expected?_eq (hl : s.current? lines = some l) (hc : l.expected? s.char = some c) :
    s.expected? lines = some c := by
  rw [expected?, hl, Option.bind_some, hc]

/-- What becomes of a session with a key, and what is answered and reported. -/
inductive Reacts (s : Session) (lines : List Line) (k : Key) (now : Instant) :
    Reply Outcome → Prop
  | ignore (hk : k.classify s.phase = .ignore) : Reacts s lines k now ⟨s, .ignored, []⟩
  | reset (hk : k.classify s.phase = .reset) :
      Reacts s lines k now ⟨s, .resetRequested, [.resetRequested]⟩
  | pause (hk : k.classify s.phase = .togglePause) (h : s.phase = .running) :
      Reacts s lines k now ⟨s.pause now, .handled, [.pauseToggled true]⟩
  | resume (hk : k.classify s.phase = .togglePause) (h : s.phase = .paused) :
      Reacts s lines k now ⟨s.closePause now, .handled, [.pauseToggled false]⟩
  | vain (c : Char) (hk : k.classify s.phase = .type c) (hnone : s.expected? lines = none) :
      Reacts s lines k now ⟨s.begun now, .ignored, s.opening⟩
  | hit (l : Line) (c : Char) (hk : k.classify s.phase = .type c) (hl : s.current? lines = some l)
      (hc : l.expected? s.char = some c) (hlt : s.char + 1 < l.typingLen) :
      Reacts s lines k now ⟨(s.begun now).hit, .handled, s.opening ++ [.charTyped true]⟩
  | last (l : Line) (c : Char) (hk : k.classify s.phase = .type c)
      (hl : s.current? lines = some l) (hc : l.expected? s.char = some c)
      (hend : s.char + 1 = l.typingLen) :
      Reacts s lines k now ⟨(s.begun now).hit, .lineFinished, s.opening ++ [.charTyped true]⟩
  | miss (l : Line) (c d : Char) (hk : k.classify s.phase = .type d)
      (hl : s.current? lines = some l) (hc : l.expected? s.char = some c) (hd : d ≠ c) :
      Reacts s lines k now ⟨(s.begun now).miss, .handled, s.opening ++ [.charTyped false]⟩

theorem handleKey_of_type (hk : k.classify s.phase = .type c) (lines : List Line)
    (now : Instant) :
    s.handleKey lines k now =
      let r := (s.begun now).typeChar lines c
      { r with events := s.opening ++ r.events } := by
  rw [handleKey, hk]
  by_cases h : s.phase = .idle
  · simp [begun, opening, h]
  · simp [begun, opening, h]

theorem reacts_type (hk : k.classify s.phase = .type c) (lines : List Line) (now : Instant) :
    s.Reacts lines k now (s.handleKey lines k now) := by
  rw [handleKey_of_type hk]
  rcases (s.begun now).typeChar_cases lines c with ⟨hnone, heq⟩ | ⟨l, e, hl, he, heq⟩
  · rw [begun_current?, begun_char] at hnone
    have hexpected : s.expected? lines = none := Option.bind_eq_none_iff.2 hnone
    simpa [heq] using Reacts.vain c hk hexpected
  · rw [begun_current?] at hl
    rw [begun_char] at he
    by_cases hc : c = e
    · subst hc
      have hlt : s.char < l.typingLen := (l.expected?_isSome_iff s.char).1 (by rw [he]; rfl)
      by_cases hend : s.char + 1 = l.typingLen
      · simpa [heq, hend] using Reacts.last l c hk hl he hend
      · simpa [heq, hend] using Reacts.hit l c hk hl he (by omega)
    · simpa [heq, hc] using Reacts.miss l e c hk hl he hc

theorem handleKey_reacts (s : Session) (lines : List Line) (k : Key) (now : Instant) :
    s.Reacts lines k now (s.handleKey lines k now) := by
  cases hk : k.classify s.phase with
  | ignore => simpa only [handleKey, hk] using Reacts.ignore hk
  | reset => simpa only [handleKey, hk] using Reacts.reset hk
  | togglePause =>
      rw [handleKey, hk]
      rcases (Key.classify_togglePause_iff.1 hk).1 with h | h
      · simp only [togglePause, h]
        exact Reacts.pause hk h
      · simp only [togglePause, h]
        exact Reacts.resume hk h
  | type c => exact reacts_type hk lines now

/-- The key typed the right character, and but for the start of the test nothing else happened. The
word of the count goes up by one where there is a next one. -/
structure Hits (s : Session) (l : Line) (k : Key) (now : Instant) (r : Reply Outcome) : Prop where
  types : ∃ c, l.expected? s.char = some c ∧ k.Types c
  session_eq : r.session = (s.begun now).hit.stored
  typed_eq : s.typed + 1 < UInt64.size → r.session.typed = s.typed + 1
  char_eq : r.session.char = s.char + 1
  errors_eq : r.session.errors = s.errors
  events_eq : r.events = s.opening ++ [.charTyped true]

structure Misses (s : Session) (l : Line) (k : Key) (now : Instant) (r : Reply Outcome) :
    Prop where
  types : ∃ c d, l.expected? s.char = some c ∧ k.Types d ∧ d ≠ c
  session_eq : r.session = (s.begun now).miss.stored
  typed_eq : r.session.typed = s.typed
  char_eq : r.session.char = s.char
  errors_eq : s.errors + 1 < UInt64.size → r.session.errors = s.errors + 1
  events_eq : r.events = s.opening ++ [.charTyped false]

structure StartsInVain (s : Session) (lines : List Line) (k : Key) : Prop where
  idle : s.phase = .idle
  types : ∃ c, k.Types c
  expected_eq : s.expected? lines = none

/-- What each outcome tells of the reply, and which keys come to it. -/
structure Tells (s : Session) (lines : List Line) (k : Key) (now : Instant)
    (r : Reply Outcome) : Prop where
  line_eq : r.session.line = s.line
  completed_eq : r.session.completed = s.completed
  endedAt_eq : r.session.endedAt = s.endedAt
  resetRequested : r.answer = .resetRequested → r.session = s ∧ r.events = [.resetRequested]
  ignored : r.answer = .ignored → ¬ s.StartsInVain lines k → r.session = s ∧ r.events = []
  vain : s.StartsInVain lines k → r = ⟨s.start now, .ignored, [.testStarted]⟩
  lineFinished : r.answer = .lineFinished → ∃ l, s.current? lines = some l ∧ s.Hits l k now r ∧
    r.session.char = l.typingLen
  handled : r.answer = .handled →
    (s.phase = .running ∧ r.session = s.pause now ∧ r.events = [.pauseToggled true]) ∨
    (s.phase = .paused ∧ r.session = s.closePause now ∧ r.events = [.pauseToggled false]) ∨
    ∃ l, s.current? lines = some l ∧
      (s.Hits l k now r ∧ r.session.char < l.typingLen ∨ s.Misses l k now r)
  finishes : ∀ l c, s.phase = .idle ∨ s.phase = .running → s.current? lines = some l →
    l.expected? s.char = some c → s.char + 1 = l.typingLen → k.Types c → r.answer = .lineFinished
  resumes : s.phase = .paused → k.Pauses → r = ⟨s.closePause now, .handled, [.pauseToggled false]⟩
  waits : s.phase = .paused → ¬ k.Pauses → r.session = s ∧
    r.answer = if k.kind = .press ∧ k.code = Key.resetCode then .resetRequested else .ignored

theorem Reacts.frame (h : s.Reacts lines k now r) : r.session.line = s.line ∧
    r.session.completed = s.completed ∧ r.session.endedAt = s.endedAt := by
  cases h with
  | ignore | reset | pause | resume => exact ⟨rfl, rfl, rfl⟩
  | vain | hit | last | miss =>
      exact ⟨s.begun_line now, s.begun_completed now, s.begun_endedAt now⟩

theorem hits_of (hs : s.Fits 0) (hl : l.expected? s.char = some c)
    (hk : k.classify s.phase = .type c) (now : Instant) (o : Outcome) :
    s.Hits l k now (Reply.stored ⟨(s.begun now).hit, o, s.opening ++ [.charTyped true]⟩) where
  types := ⟨c, hl, (Key.classify_type_iff.1 hk).2⟩
  session_eq := rfl
  typed_eq hroom := by simpa [Reply.stored, stored] using Nat.mod_eq_of_lt hroom
  char_eq := by simp [Reply.stored, stored]
  errors_eq := by simpa [Reply.stored, stored] using Nat.mod_eq_of_lt hs.2
  events_eq := rfl

theorem misses_of {d : Char} (hs : s.Fits 0) (hl : l.expected? s.char = some c)
    (hk : k.classify s.phase = .type d) (hd : d ≠ c) :
    s.Misses l k now
      (Reply.stored ⟨(s.begun now).miss, .handled, s.opening ++ [.charTyped false]⟩) where
  types := ⟨c, d, hl, (Key.classify_type_iff.1 hk).2, hd⟩
  session_eq := rfl
  typed_eq := by simpa [Reply.stored, stored] using Nat.mod_eq_of_lt hs.1
  char_eq := by simp [Reply.stored, stored]
  errors_eq hroom := by simpa [Reply.stored, stored] using Nat.mod_eq_of_lt hroom
  events_eq := rfl

theorem Reacts.resetRequested (hs : s.Fits 0) (h : s.Reacts lines k now r)
    (hr : r.answer = .resetRequested) :
    r.stored.session = s ∧ r.events = [.resetRequested] := by
  cases h with
  | reset => exact ⟨stored_of_fits hs, rfl⟩
  | _ => cases hr

theorem Reacts.ignored (hs : s.Fits 0) (h : s.Reacts lines k now r) (hr : r.answer = .ignored)
    (hvain : ¬ s.StartsInVain lines k) : r.stored.session = s ∧ r.events = [] := by
  cases h with
  | ignore => exact ⟨stored_of_fits hs, rfl⟩
  | vain c hk hnone =>
      have hidle : s.phase ≠ .idle := fun hi =>
        hvain ⟨hi, ⟨c, (Key.classify_type_iff.1 hk).2⟩, hnone⟩
      have hbegun : s.begun now = s := if_neg hidle
      rw [Reply.stored, hbegun]
      exact ⟨stored_of_fits hs, if_neg hidle⟩
  | _ => cases hr

theorem Reacts.vain_eq (hs : s.Fits 0) (h : s.Reacts lines k now r)
    (hvain : s.StartsInVain lines k) :
    r.stored = ⟨s.start now, .ignored, [.testStarted]⟩ := by
  obtain ⟨hidle, ⟨c, hc⟩, hnone⟩ := hvain
  have hk : k.classify s.phase = .type c := Key.classify_type_iff.2 ⟨.inl hidle, hc⟩
  cases h with
  | vain =>
      have hbegun : s.begun now = s.start now := if_pos hidle
      have hopening : s.opening = [.testStarted] := if_pos hidle
      have hstored : (s.start now).stored = s.start now := stored_of_fits hs
      rw [Reply.stored, hbegun, hstored, hopening]
  | hit l d _ hl hd | last l d _ hl hd | miss l d _ _ hl hd =>
      exact absurd ((expected?_eq hl hd).symm.trans hnone) (Option.some_ne_none _)
  | ignore h | reset h | pause h | resume h => cases h.symm.trans hk

theorem Reacts.lineFinished (hs : s.Fits 0) (h : s.Reacts lines k now r)
    (hr : r.answer = .lineFinished) :
    ∃ l, s.current? lines = some l ∧ s.Hits l k now r.stored ∧
      r.stored.session.char = l.typingLen := by
  cases h with
  | last l c hk hl hc hend =>
      have hhits := hits_of hs hc hk now .lineFinished
      exact ⟨l, hl, hhits, hhits.char_eq.trans hend⟩
  | _ => cases hr

theorem Reacts.handled (hs : s.Fits 0) (h : s.Reacts lines k now r) (hr : r.answer = .handled) :
    (s.phase = .running ∧ r.stored.session = s.pause now ∧ r.events = [.pauseToggled true]) ∨
    (s.phase = .paused ∧ r.stored.session = s.closePause now ∧
      r.events = [.pauseToggled false]) ∨
    ∃ l, s.current? lines = some l ∧
      (s.Hits l k now r.stored ∧ r.stored.session.char < l.typingLen ∨
        s.Misses l k now r.stored) := by
  cases h with
  | pause _ hp => exact .inl ⟨hp, stored_of_fits hs, rfl⟩
  | resume _ hp => exact .inr (.inl ⟨hp, stored_of_fits hs, rfl⟩)
  | hit l c hk hl hc hlt =>
      have hhits := hits_of hs hc hk now .handled
      exact .inr (.inr ⟨l, hl, .inl ⟨hhits, hhits.char_eq ▸ hlt⟩⟩)
  | miss l c d hk hl hc hd => exact .inr (.inr ⟨l, hl, .inr (misses_of hs hc hk hd)⟩)
  | _ => cases hr

theorem Reacts.finishes (h : s.Reacts lines k now r) (hk : k.classify s.phase = .type c)
    (hl : s.current? lines = some l) (hc : l.expected? s.char = some c)
    (hend : s.char + 1 = l.typingLen) : r.answer = .lineFinished := by
  cases h with
  | last => rfl
  | vain _ _ hnone => exact nomatch (expected?_eq hl hc).symm.trans hnone
  | hit m _ _ hm _ hlt =>
      obtain rfl : l = m := Option.some.inj (hl.symm.trans hm)
      exact absurd hend (Nat.ne_of_lt hlt)
  | miss m e d hd hm he hne =>
      obtain rfl : l = m := Option.some.inj (hl.symm.trans hm)
      obtain rfl : c = e := Option.some.inj (hc.symm.trans he)
      exact absurd (KeyAction.type.inj (hd.symm.trans hk)) hne
  | ignore h | reset h | pause h | resume h => exact nomatch h.symm.trans hk

theorem handleKey_resumes (hp : s.phase = .paused) (hk : k.Pauses) (lines : List Line)
    (now : Instant) :
    s.handleKey lines k now = ⟨s.closePause now, .handled, [.pauseToggled false]⟩ := by
  have hclassify : k.classify s.phase = .togglePause :=
    Key.classify_togglePause_iff.2 ⟨.inr hp, hk⟩
  rw [handleKey, hclassify]
  simp only [togglePause, hp]

theorem handleKey_waits (hp : s.phase = .paused) (hk : ¬ k.Pauses) (lines : List Line)
    (now : Instant) : (s.handleKey lines k now).session = s ∧
      (s.handleKey lines k now).answer =
        if k.kind = .press ∧ k.code = Key.resetCode then .resetRequested else .ignored := by
  rw [handleKey, hp, Key.classify_paused hk]
  by_cases hreset : k.kind = .press ∧ k.code = Key.resetCode
  · simp only [if_pos hreset, and_self]
  · simp only [if_neg hreset, and_self]

end Session

def Modifiers.held (m : Modifiers) : Bool :=
  m.control || m.alt || m.superKey || m.hyper || m.metaKey

namespace Key

variable {k : Key} {phase : Phase}

def bare (k : Key) : Key := { k with modifiers := {} }

theorem classify_bare (h : k.modifiers.command = false) :
    k.bare.classify phase = k.classify phase := by
  have hbare : k.bare.modifiers.command = k.modifiers.command := h.symm
  unfold classify
  rw [hbare]
  rfl

end Key

namespace Session

/-- A key held with Control, Alt, Super or Meta means nothing, but for the reset key in a pause. Of
the modifiers other than Shift this leaves Hyper: a key held with it alone is taken as if nothing
was held. -/
theorem handleKey_held (s : Session) (lines : List Line) (k : Key) (now : Instant)
    (hheld : k.modifiers.held = true) (hreset : ¬ (s.phase = .paused ∧ k.code = Key.resetCode)) :
    (k.modifiers.command = true → s.handleKey lines k now = ⟨s, .ignored, []⟩) ∧
      (k.modifiers.command = false → k.modifiers.hyper = true ∧
        s.handleKey lines k now = s.handleKey lines k.bare now) := by
  constructor
  · intro hcommand
    rw [handleKey, Key.classify_command hcommand hreset]
  · intro hcommand
    refine ⟨?_, ?_⟩
    · simp only [Modifiers.command, Bool.or_eq_false_iff] at hcommand
      simpa [Modifiers.held, hcommand] using hheld
    · rw [handleKey, handleKey, Key.classify_bare hcommand]

/-- With Control and Hyper held a key is ignored, with Hyper alone it types. -/
theorem handleKey_held_both :
    let line : Line := ⟨0, 0, [], "a", ∅⟩
    ({} : Session).handleKey [line]
        { code := .char 'a', modifiers := { control := true, hyper := true } } 5 =
      ⟨{}, .ignored, []⟩ ∧
    ({} : Session).handleKey [line] { code := .char 'a', modifiers := { hyper := true } } 5 =
      ({} : Session).handleKey [line] (.plain 'a') 5 := by
  intro line
  exact ⟨(handleKey_held _ _ _ _ rfl (by decide)).1 rfl,
    ((handleKey_held _ _ _ _ rfl (by decide)).2 rfl).2⟩

/-- Hyper with a character starts a test. -/
theorem hyper_starts : ¬ ∀ (s : Session) (lines : List Line) (k : Key) (now : Instant),
    k.kind = .press → k.modifiers.held = true → ¬ (s.phase = .paused ∧ k.code = Key.resetCode) →
      s.handleKey lines k now = ⟨s, .ignored, []⟩ := by
  intro h
  have heq := h {} [⟨0, 0, [], "a", ∅⟩] { code := .char 'a', modifiers := { hyper := true } } 5 rfl
    rfl (by decide)
  exact absurd (congrArg Reply.events heq) (by decide +kernel)

end Session

end TypingTrainer
