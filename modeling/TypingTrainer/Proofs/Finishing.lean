import TypingTrainer.Proofs.Completed
import TypingTrainer.Proofs.Cursor
import Mathlib.Data.Bool.AllAny

namespace TypingTrainer

open Session (nextTypeable passed isTypeable_of_mem_passed drop_eq_passed_append)

variable {lines : List Line} {i n : Nat} {l : Line} {c : Char}

def charsFrom (lines : List Line) (i n : Nat) : List Char :=
  ((lines.drop i).flatMap fun l => l.sequence.toList).drop n

def typeableFrom (lines : List Line) (i : Nat) : Nat := (lines.drop i).countP Line.isTypeable

theorem drop_eq_cons (h : lines[i]? = some l) : lines.drop i = l :: lines.drop (i + 1) := by
  obtain ⟨hlt, rfl⟩ := List.getElem?_eq_some_iff.1 h
  exact List.drop_eq_getElem_cons hlt

theorem charsFrom_expected (h : lines[i]? = some l) (hc : l.expected? n = some c) :
    charsFrom lines i n = c :: charsFrom lines i (n + 1) := by
  have hlt : n < l.sequence.toList.length := (List.getElem?_eq_some_iff.1 hc).1
  have hget : ((lines.drop i).flatMap fun l => l.sequence.toList)[n]? = some c := by
    rw [drop_eq_cons h, List.flatMap_cons, List.getElem?_append_left hlt]
    exact hc
  obtain ⟨hn, rfl⟩ := List.getElem?_eq_some_iff.1 hget
  exact List.drop_eq_getElem_cons hn

theorem charsFrom_typingLen (h : lines[i]? = some l) :
    charsFrom lines i l.typingLen = charsFrom lines (i + 1) 0 := by
  rw [charsFrom, drop_eq_cons h, List.flatMap_cons, Line.typingLen, ← String.length_toList,
    List.drop_left]
  rfl

theorem charsFrom_nextTypeable (lines : List Line) (i : Nat) :
    charsFrom lines (nextTypeable lines i) 0 = charsFrom lines i 0 := by
  have hpassed : (passed lines i).flatMap (fun l => l.sequence.toList) = [] := by
    apply List.flatMap_eq_nil_iff.2
    intro l hl
    rw [(l.isTypeable_eq_false_iff).1 (isTypeable_of_mem_passed hl)]
    rfl
  rw [charsFrom, charsFrom, drop_eq_passed_append lines i, List.flatMap_append, hpassed,
    List.nil_append]

theorem typeableFrom_succ (h : lines[i]? = some l) (ht : l.isTypeable = true) :
    typeableFrom lines i = typeableFrom lines (i + 1) + 1 := by
  rw [typeableFrom, drop_eq_cons h, List.countP_cons_of_pos ht, typeableFrom]

theorem typeableFrom_nextTypeable (lines : List Line) (i : Nat) :
    typeableFrom lines (nextTypeable lines i) = typeableFrom lines i := by
  have hpassed : (passed lines i).countP Line.isTypeable = 0 := by
    apply List.countP_eq_zero.2
    intro l hl
    rw [isTypeable_of_mem_passed hl]
    exact Bool.false_ne_true
  rw [typeableFrom, typeableFrom, drop_eq_passed_append lines i, List.countP_append, hpassed,
    Nat.zero_add]

theorem charsFrom_end (h : lines.length ≤ i) : charsFrom lines i n = [] := by
  rw [charsFrom, List.drop_eq_nil_of_le h]
  exact List.drop_nil

theorem typeableFrom_end (h : lines.length ≤ i) : typeableFrom lines i = 0 := by
  rw [typeableFrom, List.drop_eq_nil_of_le h]
  rfl

theorem Key.classify_plain {phase : Phase} (h : phase = .idle ∨ phase = .running)
    (hc : c = '\n' ∨ Text.isControl c = false) : (Key.plain c).classify phase = .type c := by
  by_cases hfeed : c = '\n'
  · subst hfeed
    rcases h with rfl | rfl <;> rfl
  · have hcontrol : Text.isControl c = false := hc.resolve_left hfeed
    rcases h with rfl | rfl <;>
      simp [classify, plain, hfeed, hcontrol, pauseCode, resetCode, Modifiers.command]

def Ends (events : List Event) : Prop :=
  ∃ earlier, events = earlier ++ [.testCompleted] ∧ .testCompleted ∉ earlier

theorem Ends.append {es fs : List Event} (hes : .testCompleted ∉ es) (h : Ends fs) :
    Ends (es ++ fs) := by
  obtain ⟨earlier, rfl, hnot⟩ := h
  exact ⟨es ++ earlier, (List.append_assoc ..).symm, List.not_mem_append hes hnot⟩

namespace Practice

variable {p q r : Practice} {a : Action} {es fs : List Event} {now : Instant}

def ahead (p : Practice) : List Char := charsFrom p.lines p.session.line p.session.char

/-- What is left to do: the characters, a completion for each line, and an end of the pause. -/
def duties (p : Practice) : Nat :=
  p.ahead.length + typeableFrom p.lines p.session.line + if p.phase = .paused then 1 else 0

/-- What a practice asks for next: to be resumed, to complete the line that is done, or the next
character. -/
inductive Asks (p : Practice) : Action → Prop
  | resume (now : Instant) (h : p.phase = .paused) : Asks p (.key { code := Key.pauseCode } now)
  | complete (now : Instant) (h : p.phase ≠ .paused) (c : Completion) (hc : p.pending = some c)
      (hdue : c.due ≤ now) : Asks p (.poll now)
  | type (now : Instant) (h : p.phase = .idle ∨ p.phase = .running) (hp : p.pending = none)
      (l : Line) (hl : p.current? = some l) (c : Char) (hc : l.expected? p.session.char = some c) :
      Asks p (.key (.plain c) now)

inductive Follows : Practice → List Action → Prop
  | nil (p : Practice) : Follows p []
  | cons {p : Practice} {a : Action} {rest : List Action} (h : p.Asks a)
      (t : Follows (p.step a).practice rest) : Follows p (a :: rest)

/-- A test that can go on: it is not over, it has a current line, and all that is still to be typed
has a key. -/
structure Underway (p : Practice) : Prop where
  sound : p.Sound
  coherent : p.Coherent
  not_complete : p.phase ≠ .complete
  current : p.current?.isSome = true
  plain : ∀ c ∈ p.ahead, c = '\n' ∨ Text.isControl c = false

structure Does (p q : Practice) (es : List Event) : Prop where
  lines_eq : q.lines = p.lines
  errors_eq : q.session.errors = p.session.errors
  clean : .charTyped false ∉ es
  ahead_suffix : q.ahead <:+ p.ahead
  typed_eq : q.session.typed + q.ahead.length = p.session.typed + p.ahead.length
  duties_eq : q.duties + 1 = p.duties
  outcome : (q.phase = .running ∧ q.current?.isSome = true ∧ .testCompleted ∉ es) ∨
    (q.phase = .complete ∧ q.duties = 0 ∧ Ends es)

theorem Asks.not_complete (h : p.Asks a) (hi : p.Coherent) : p.phase ≠ .complete := by
  intro hp
  cases h with
  | resume now h => exact nomatch hp.symm.trans h
  | complete now h c hc => simp [(hi.complete hp).1] at hc
  | type now h => rcases h with h | h <;> exact nomatch hp.symm.trans h

theorem Asks.isCompletion (h : p.Asks a) : a.isCompletion = false := by
  cases h <;> rfl

theorem Underway.onLine (h : p.Underway) : p.OnLine := by
  obtain ⟨l, hl⟩ := Option.isSome_iff_exists.1 h.current
  have hstranded : ¬ p.session.line = p.lines.length := by
    intro hline
    simp [current?, Session.current?, hline] at hl
  cases hp : p.phase with
  | complete => exact absurd hp h.not_complete
  | idle =>
      obtain ⟨hfirst, hchar, hpending⟩ := h.coherent.idle hp
      rcases hfirst with ⟨m, hm, ht, -⟩ | ⟨hline, -⟩
      · exact onLine_of_typeable hm ht hchar hpending
      · exact absurd hline hstranded
  | running => exact (h.coherent.active (.inl hp)).resolve_right fun hs => hstranded hs.2.1
  | paused => exact (h.coherent.active (.inr hp)).resolve_right fun hs => hstranded hs.2.1

theorem Underway.asks (h : p.Underway) : ∃ a, p.Asks a := by
  obtain ⟨l, hl, -, hle, hiff⟩ := h.onLine
  by_cases hpaused : p.phase = .paused
  · exact ⟨_, .resume 0 hpaused⟩
  cases hc : p.pending with
  | some c => exact ⟨_, .complete c.due hpaused c hc (Int.le_refl _)⟩
  | none =>
      have hne : p.session.char ≠ l.typingLen := by
        intro hchar
        simp [hc] at hiff
        exact hiff hchar
      obtain ⟨e, he⟩ := Option.isSome_iff_exists.1
        ((l.expected?_isSome_iff p.session.char).2 (by omega))
      have hphase : p.phase = .idle ∨ p.phase = .running := by
        cases hp : p.phase with
        | idle => exact .inl rfl
        | running => exact .inr rfl
        | paused => exact absurd hp hpaused
        | complete => exact absurd hp h.not_complete
      exact ⟨_, .type 0 hphase hc l hl e he⟩

theorem Underway.duties_pos (h : p.Underway) : 0 < p.duties := by
  obtain ⟨l, hl, hne, -⟩ := h.onLine
  have ht : l.isTypeable = true := by simpa [Line.isTypeable] using hne
  have hcount := typeableFrom_succ hl ht
  rw [duties]
  omega

theorem step_resume (h : p.phase = .paused) (now : Instant) :
    p.step (.key { code := Key.pauseCode } now) =
      { practice := { p with session := p.session.closePause now }, answer := .outcome .handled,
        events := [.pauseToggled false] } := by
  have hp : p.session.phase = .paused := h
  have hk : Key.classify { code := Key.pauseCode } p.session.phase = .togglePause := by
    rw [hp]
    rfl
  simp only [step, Reply.map]
  rw [handleKey_eq, Session.handleKey, hk]
  simp [Session.togglePause, hp, follow]

theorem does_resume (h : p.phase = .paused) (hcurrent : p.current?.isSome = true) (now : Instant) :
    p.Does { p with session := p.session.closePause now } [.pauseToggled false] := by
  have hphase := phase_resume h now
  refine ⟨rfl, rfl, by simp, List.suffix_rfl, rfl, ?_, .inl ⟨hphase, hcurrent, by simp⟩⟩
  rw [duties, duties, hphase, h]
  rfl

theorem step_hit {k : Key} (h : p.phase = .running) (hl : p.current? = some l)
    (hc : l.expected? p.session.char = some c) (hk : k.classify p.phase = .type c)
    (now : Instant) :
    (p.step (.key k now)).practice = p.hit l now ∧
      (p.step (.key k now)).events = [.charTyped true] := by
  rcases p.session.typeChar_cases p.lines c with ⟨hnone, -⟩ | ⟨m, e, hm, he, heq⟩
  · have hmissing := hnone l hl
    rw [hc] at hmissing
    exact nomatch hmissing
  · obtain rfl : l = m := Option.some.inj (hl.symm.trans hm)
    obtain rfl : c = e := Option.some.inj (hc.symm.trans he)
    rw [if_pos rfl] at heq
    simp only [step, Reply.map]
    rw [handleKey_type h hk, heq]
    by_cases hn : p.session.char + 1 = l.typingLen
    · simp [follow, hit, hn]
    · simp [follow, hit, hn]

theorem does_hit (h : p.phase = .running) (hl : p.current? = some l)
    (hc : l.expected? p.session.char = some c) (now : Instant) :
    p.Does (p.hit l now) [.charTyped true] := by
  have hphase : (p.hit l now).phase = .running := h
  have hcurrent : (p.hit l now).current?.isSome = true := Option.isSome_of_eq_some hl
  have hahead : p.ahead = c :: (p.hit l now).ahead := charsFrom_expected hl hc
  have hcount : typeableFrom (p.hit l now).lines (p.hit l now).session.line =
      typeableFrom p.lines p.session.line := rfl
  have htyped : (p.hit l now).session.typed = p.session.typed + 1 := rfl
  refine ⟨rfl, rfl, by simp, ?_, ?_, ?_, .inl ⟨hphase, hcurrent, by simp⟩⟩
  · rw [hahead]
    exact List.suffix_cons ..
  · rw [hahead, htyped, List.length_cons]
    omega
  · rw [duties, duties, hphase, h, hahead, hcount, List.length_cons]
    omega

theorem duties_end (hline : p.lines.length ≤ p.session.line) (h : p.phase = .complete) :
    p.duties = 0 := by
  rw [duties, ahead, charsFrom_end hline, typeableFrom_end hline, h]
  rfl

theorem does_moveOn (h : p.phase = .running) (hl : p.current? = some l)
    (ht : l.isTypeable = true) (hchar : p.session.char = l.typingLen)
    (hlines : q.lines = p.lines)
    (hsession : q.session.line = nextTypeable p.lines (p.session.line + 1) ∧
      q.session.char = 0 ∧ q.session.typed = p.session.typed ∧ q.session.errors = p.session.errors)
    (hclean : .charTyped false ∉ es)
    (houtcome : (q.phase = .running ∧ q.session.line < q.lines.length ∧ .testCompleted ∉ es) ∨
      (q.phase = .complete ∧ q.lines.length ≤ q.session.line ∧ Ends es)) :
    p.Does q es := by
  obtain ⟨hline, hzero, htyped, herrors⟩ := hsession
  have hahead : q.ahead = p.ahead := by
    rw [ahead, ahead, hlines, hline, hzero, hchar, charsFrom_nextTypeable, charsFrom_typingLen hl]
  have hcount : typeableFrom q.lines q.session.line + 1 =
      typeableFrom p.lines p.session.line := by
    rw [hlines, hline, typeableFrom_nextTypeable, typeableFrom_succ hl ht]
  have hpaused : p.phase ≠ .paused ∧ q.phase ≠ .paused := by
    rcases houtcome with ⟨hq, -⟩ | ⟨hq, -⟩ <;> simp [h, hq]
  refine ⟨hlines, herrors, hclean, ?_, ?_, ?_, ?_⟩
  · exact hahead ▸ List.suffix_rfl
  · rw [hahead, htyped]
  · rw [duties, duties, if_neg hpaused.1, if_neg hpaused.2, hahead]
    omega
  · rcases houtcome with ⟨hq, hlt, hes⟩ | ⟨hq, hle, hes⟩
    · refine .inl ⟨hq, ?_, hes⟩
      exact Option.isSome_of_eq_some (List.getElem?_eq_getElem hlt)
    · exact .inr ⟨hq, duties_end hle hq, hes⟩

theorem does_advance (h : p.phase = .running) (hl : p.current? = some l)
    (ht : l.isTypeable = true) (hchar : p.session.char = l.typingLen) (now : Instant) :
    p.Does (p.settled.advance now).practice (p.settled.advance now).events := by
  have hle : p.session.line ≤ p.lines.length := Nat.le_of_lt (List.getElem?_eq_some_iff.1 hl).1
  rw [advance_eq (p := p.settled) hle]
  by_cases hn : nextTypeable p.settled.lines (p.settled.session.line + 1) < p.settled.lines.length
  · rw [if_pos hn]
    exact does_moveOn h hl ht hchar rfl ⟨rfl, rfl, rfl, rfl⟩ (by simp) (.inl ⟨h, hn, by simp⟩)
  · rw [if_neg hn]
    have hphase : (p.settled.conclude now).practice.phase = .complete :=
      Session.phase_eq_complete.2 rfl
    have hends : Ends [.testCompleted] := ⟨[], rfl, List.not_mem_nil⟩
    exact does_moveOn h hl ht hchar rfl ⟨rfl, rfl, rfl, rfl⟩ (by simp)
      (.inr ⟨hphase, Nat.not_lt.1 hn, hends⟩)

theorem Does.started (hs : p.Sound) (hidle : p.phase = .idle)
    (h : (p.started now).Does q es) : p.Does q (.testStarted :: es) := by
  have hrunning : (p.started now).phase = .running := hs.phase_start hidle now
  have hsame : (p.started now).duties = p.duties := by
    rw [duties, duties, hrunning, hidle]
    rfl
  refine ⟨h.lines_eq, h.errors_eq, ?_, h.ahead_suffix, h.typed_eq, h.duties_eq.trans hsame, ?_⟩
  · simpa using h.clean
  · rcases h.outcome with ⟨hq, hcurrent, hes⟩ | ⟨hq, hnone, hes⟩
    · exact .inl ⟨hq, hcurrent, by simpa using hes⟩
    · have hstart : Event.testCompleted ∉ [Event.testStarted] := by simp
      exact .inr ⟨hq, hnone, hes.append hstart⟩

theorem Underway.does (h : p.Underway) (ha : p.Asks a) :
    p.Does (p.step a).practice (p.step a).events := by
  cases ha with
  | resume now hp =>
      rw [step_resume hp]
      exact does_resume hp h.current now
  | complete now hp c hc hdue =>
      have hrunning : p.phase = .running := (h.coherent.active_of_pending hc).resolve_right hp
      obtain ⟨l, hl, hne, -, hiff⟩ := h.onLine
      have ht : l.isTypeable = true := by simpa [Line.isTypeable] using hne
      have hchar : p.session.char = l.typingLen := hiff.1 (Option.isSome_of_eq_some hc)
      simp only [step, Reply.map]
      rw [h.coherent.poll_due hc hrunning hdue]
      exact does_advance hrunning hl ht hchar now
  | type now hphase hp l hl c hc =>
      have hplain : c = '\n' ∨ Text.isControl c = false := by
        apply h.plain
        rw [ahead, charsFrom_expected hl hc]
        exact List.mem_cons_self
      rcases hphase with hidle | hrunning
      · -- the first key also starts the test
        have hk : (Key.plain c).classify p.phase = .type c :=
          Key.classify_plain (.inl hidle) hplain
        have hstarted : (p.started now).phase = .running := h.sound.phase_start hidle now
        have hk' := classify_started hidle hk hstarted
        have hcurrent : (p.started now).current? = some l := hl
        obtain ⟨hpractice, hevents⟩ := step_hit hstarted hcurrent hc hk' now
        rw [step_start h.sound hidle hk now]
        dsimp only
        rw [hpractice, hevents]
        exact (does_hit hstarted hcurrent hc now).started h.sound hidle
      · have hk : (Key.plain c).classify p.phase = .type c :=
          Key.classify_plain (.inr hrunning) hplain
        obtain ⟨hpractice, hevents⟩ := step_hit hrunning hl hc hk now
        rw [hpractice, hevents]
        exact does_hit hrunning hl hc now

/-- What `n` steps that were asked for lead to: a test that can go on, or a complete one. -/
structure Progress (p : Practice) (n : Nat) (q : Practice) (es : List Event) : Prop where
  lines_eq : q.lines = p.lines
  coherent : q.Coherent
  spans : ∀ s, p.Spans s → q.Spans s
  errors_eq : q.session.errors = p.session.errors
  clean : .charTyped false ∉ es
  typed_eq : q.session.typed + q.ahead.length = p.session.typed + p.ahead.length
  duties_eq : q.duties + n = p.duties
  outcome : (q.Underway ∧ .testCompleted ∉ es) ∨ (q.phase = .complete ∧ q.duties = 0 ∧ Ends es)

theorem Progress.refl (h : p.Underway) : p.Progress 0 p [] where
  lines_eq := rfl
  coherent := h.coherent
  spans _ hs := hs
  errors_eq := rfl
  clean := List.not_mem_nil
  typed_eq := rfl
  duties_eq := rfl
  outcome := .inl ⟨h, List.not_mem_nil⟩

theorem Progress.trans {m n : Nat} (h : p.Progress m q es) (hes : .testCompleted ∉ es)
    (t : q.Progress n r fs) : p.Progress (m + n) r (es ++ fs) := by
  refine ⟨t.lines_eq.trans h.lines_eq, t.coherent, fun s hs => t.spans s (h.spans s hs),
    t.errors_eq.trans h.errors_eq, List.not_mem_append h.clean t.clean,
    t.typed_eq.trans h.typed_eq, ?_, ?_⟩
  · have hfirst := h.duties_eq
    have hrest := t.duties_eq
    omega
  · rcases t.outcome with ⟨hr, hfs⟩ | ⟨hr, hnone, hends⟩
    · exact .inl ⟨hr, List.not_mem_append hes hfs⟩
    · exact .inr ⟨hr, hnone, hends.append hes⟩

theorem Underway.progress (h : p.Underway) (ha : p.Asks a) :
    p.Progress 1 (p.step a).practice (p.step a).events := by
  have hd := h.does ha
  obtain ⟨hs, hi⟩ := step_preserves (P := Coherent) h.sound h.coherent
    fun hs hi hm => hi.move hs ha.isCompletion hm
  have hidle : (p.step a).practice.phase ≠ .idle := by
    rcases hd.outcome with ⟨hq, -⟩ | ⟨hq, -⟩ <;> simp [hq]
  refine ⟨hd.lines_eq, hi, ?_, hd.errors_eq, hd.clean, hd.typed_eq, hd.duties_eq, ?_⟩
  · intro s hspans
    have hq := tracks_spans.step h.sound hspans a
    rwa [seeStart, if_neg hidle] at hq
  · rcases hd.outcome with ⟨hq, hcurrent, hes⟩ | hq
    · refine .inl ⟨⟨hs, hi, by simp [hq], hcurrent, ?_⟩, hes⟩
      intro c hc
      exact h.plain c (hd.ahead_suffix.subset hc)
    · exact .inr hq

variable {asked more : List Action}

theorem Underway.follows (h : p.Underway) (hf : p.Follows asked) :
    p.Progress asked.length (p.run asked).practice (p.run asked).events := by
  induction hf with
  | nil p => exact .refl h
  | cons ha t ih =>
      have hstep := h.progress ha
      rcases hstep.outcome with ⟨hq, hes⟩ | ⟨hq, -, -⟩
      · rw [List.length_cons, Nat.add_comm]
        exact hstep.trans hes (ih hq)
      · -- a complete test asks for nothing more
        cases t with
        | nil => simpa [run] using hstep
        | cons hb => exact absurd hq (hb.not_complete hstep.coherent)

theorem Follows.append (h : p.Follows asked) (t : (p.run asked).practice.Follows more) :
    p.Follows (asked ++ more) := by
  induction h with
  | nil p => exact t
  | cons ha _ ih => exact .cons ha (ih t)

theorem Underway.finishable (h : p.Underway) :
    ∃ asked, p.Follows asked ∧ asked.length = p.duties := by
  induction hn : p.duties generalizing p with
  | zero => exact absurd h.duties_pos (by omega)
  | succ n ih =>
      obtain ⟨a, ha⟩ := h.asks
      have hstep := h.progress ha
      have hduties : (p.step a).practice.duties = n := by
        have hone := hstep.duties_eq
        omega
      rcases hstep.outcome with ⟨hq, -⟩ | ⟨-, hnone, -⟩
      · obtain ⟨rest, hrest, hlength⟩ := ih hq hduties
        exact ⟨a :: rest, .cons ha hrest, by rw [List.length_cons, hlength]⟩
      · exact ⟨[a], .cons ha (.nil _), by rw [← hduties, hnone]; rfl⟩

theorem Progress.complete_iff {n : Nat} (h : p.Progress n q es) :
    q.phase = .complete ↔ n = p.duties := by
  have hduties := h.duties_eq
  rcases h.outcome with ⟨hq, -⟩ | ⟨hq, hnone, -⟩
  · have hpos := hq.duties_pos
    exact iff_of_false hq.not_complete (by omega)
  · exact iff_of_true hq (by omega)

theorem Progress.behind {n : Nat} (h : p.Progress n q es) (hq : q.phase = .complete) :
    p.lines.length ≤ q.session.line := by
  rw [← h.lines_eq]
  exact List.getElem?_eq_none_iff.1 (h.coherent.complete hq).2

/-- Whatever came before, a test that is not over and has a current line can be finished, if all
that is still to be typed has a key: doing what is asked for takes a number of steps that is known
beforehand, and leads without an error to the end of the test. -/
theorem finish_run (source : Snippet) (info : SnippetInfo) (preset : Preset)
    (settleDelay : Duration) (recorder : Option Recorder) (actions : List Action)
    (hactions : ∀ a ∈ actions, a.isCompletion = false) :
    let fresh := begin source info preset settleDelay recorder
    let p := (fresh.run actions).practice
    p.phase ≠ .complete → p.current?.isSome = true →
    (∀ c ∈ p.ahead, c = '\n' ∨ Text.isControl c = false) →
    ∀ asked, p.Follows asked →
      let q := (p.run asked).practice
      let events := (p.run asked).events
      q.session.errors = p.session.errors ∧ .charTyped false ∉ events ∧
      (∃ more, p.Follows (asked ++ more) ∧ (asked ++ more).length = p.duties) ∧
      (q.phase = .complete ↔ asked.length = p.duties) ∧
      (q.phase = .complete →
        q.session.typed = p.session.typed + p.ahead.length ∧ Ends events ∧
        ∀ i, fresh.startLine actions ≤ i → i < p.lines.length → i ∈ q.session.completed) := by
  intro fresh p hphase hcurrent hplain asked hasked q events
  have hs : fresh.Sound := begin_sound source info preset settleDelay recorder
  have hi : p.Coherent :=
    (coherent_run source info preset settleDelay recorder actions hactions).1
  have h : p.Underway := ⟨run_sound hs actions, hi, hphase, hcurrent, hplain⟩
  have hspans : p.Spans (fresh.startLine actions) :=
    tracks_spans.run hs (spans_fresh (not_mem_completed_begin _ _ _ _ _)) actions
  have hq : p.Progress asked.length q events := h.follows hasked
  refine ⟨hq.errors_eq, hq.clean, ?_, hq.complete_iff, ?_⟩
  · rcases hq.outcome with ⟨hunderway, -⟩ | ⟨hcomplete, -⟩
    · obtain ⟨more, hmore, hlength⟩ := hunderway.finishable
      refine ⟨more, hasked.append hmore, ?_⟩
      have hduties := hq.duties_eq
      rw [List.length_append, hlength]
      omega
    · refine ⟨[], ?_, ?_⟩
      · rwa [List.append_nil]
      · rw [List.append_nil]
        exact hq.complete_iff.1 hcomplete
  · intro hcomplete
    have hbehind := hq.behind hcomplete
    rcases hq.outcome with ⟨hunderway, -⟩ | ⟨-, -, hends⟩
    · exact absurd hcomplete hunderway.not_complete
    · have hahead : q.ahead = [] := charsFrom_end (hq.lines_eq ▸ hbehind)
      have htyped := hq.typed_eq
      rw [hahead, List.length_nil, Nat.add_zero] at htyped
      refine ⟨htyped, hends, ?_⟩
      intro i hfirst hlast
      exact ((hq.spans _ hspans).mem_iff i).2 ⟨hfirst, by omega⟩

/-- After a slip, a typed line, a switch of the mode on an operator and a pause, three things are
left: to resume, to type the last character and to complete its line. -/
theorem finish_run_paused :
    let tokens := [Token.ofText "a" "identifier" [.identifier] 0,
      .ofText "=" "operator" [.operator] 0, .ofText "b" "identifier" [.identifier] 0]
    let fresh := begin (.ofTokens tokens) {} .full 50 none
    let p := (fresh.run [.key (.plain 'x') 5, .key (.plain 'a') 10, .poll 60,
      .setPreset .minimal 70, .togglePause 80]).practice
    p.phase = .paused ∧ p.session.errors = 1 ∧ p.ahead = ['b'] ∧
      ∃ asked, p.Follows asked ∧ asked.length = 3 ∧
        (p.run asked).practice.phase = .complete ∧ Ends (p.run asked).events ∧
        (p.run asked).practice.session.typed = 2 ∧
        ∀ i < 3, i ∈ (p.run asked).practice.session.completed := by
  have h := finish_run (.ofTokens [.ofText "a" "identifier" [.identifier] 0,
      .ofText "=" "operator" [.operator] 0, .ofText "b" "identifier" [.identifier] 0]) {} .full 50
    none [.key (.plain 'x') 5, .key (.plain 'a') 10, .poll 60, .setPreset .minimal 70,
      .togglePause 80] (by decide) (by decide +kernel) (by decide +kernel)
    (List.all_iff_forall_prop.1 (by decide +kernel))
  obtain ⟨-, -, ⟨asked, hasked, hlength⟩, -⟩ := h [] (.nil _)
  obtain ⟨-, -, -, hiff, hcomplete⟩ := h asked hasked
  obtain ⟨htyped, hends, hcompleted⟩ := hcomplete (hiff.2 hlength)
  exact ⟨by decide +kernel, by decide +kernel, by decide +kernel, asked, hasked,
    hlength.trans (by decide +kernel), hiff.2 hlength, hends, htyped.trans (by decide +kernel),
    fun i hi => hcompleted i (Nat.zero_le i) hi⟩

end Practice

end TypingTrainer
