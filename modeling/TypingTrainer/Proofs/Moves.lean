import TypingTrainer.Practice
import TypingTrainer.Proofs.Typeable

namespace TypingTrainer

open Session (nextTypeable)

theorem Key.phase_of_classify_type {k : Key} {phase : Phase} {c : Char}
    (h : k.classify phase = .type c) : phase = .idle ∨ phase = .running := by
  cases phase with
  | idle => exact .inl rfl
  | running => exact .inr rfl
  | paused | complete => grind [classify]

theorem Key.classify_running {k : Key} {c : Char} (h : k.classify .idle = .type c) :
    k.classify .running = .type c := by
  have hpause : k.code ≠ pauseCode := by
    intro hcode
    simp [classify, hcode] at h
    grind
  unfold classify at h ⊢
  rw [if_neg hpause] at h ⊢
  exact h

namespace Session

theorem phase_eq_complete {s : Session} : s.phase = .complete ↔ s.endedAt.isSome = true := by
  cases he : s.endedAt <;> cases ha : s.active <;> cases hp : s.paused <;> simp [phase, he, ha, hp]

theorem phase_eq_idle {s : Session} : s.phase = .idle ↔ s.endedAt = none ∧ s.active = false := by
  cases he : s.endedAt <;> cases ha : s.active <;> cases hp : s.paused <;> simp [phase, he, ha, hp]

theorem phase_eq_running {s : Session} :
    s.phase = .running ↔ s.endedAt = none ∧ s.active = true ∧ s.paused = false := by
  cases he : s.endedAt <;> cases ha : s.active <;> cases hp : s.paused <;> simp [phase, he, ha, hp]

theorem phase_eq_paused {s : Session} :
    s.phase = .paused ↔ s.endedAt = none ∧ s.active = true ∧ s.paused = true := by
  cases he : s.endedAt <;> cases ha : s.active <;> cases hp : s.paused <;> simp [phase, he, ha, hp]

def hit (s : Session) : Session :=
  { s with char := s.char + 1, typed := s.typed + 1, missed := false }

def miss (s : Session) : Session := { s with errors := s.errors + 1, missed := true }

def pause (s : Session) (now : Instant) : Session := { s with paused := true, pausedAt := some now }

@[simp] theorem hit_char (s : Session) : s.hit.char = s.char + 1 := rfl

@[simp] theorem hit_typed (s : Session) : s.hit.typed = s.typed + 1 := rfl

@[simp] theorem hit_errors (s : Session) : s.hit.errors = s.errors := rfl

@[simp] theorem miss_char (s : Session) : s.miss.char = s.char := rfl

@[simp] theorem miss_typed (s : Session) : s.miss.typed = s.typed := rfl

@[simp] theorem miss_errors (s : Session) : s.miss.errors = s.errors + 1 := rfl

def moveOn (s : Session) (lines : List Line) : Session :=
  { s with
    line := nextTypeable lines (s.line + 1)
    char := 0
    missed := false
    completed := s.completed.insertMany
      (List.range' s.line (nextTypeable lines (s.line + 1) - s.line)) }

theorem typeChar_cases (s : Session) (lines : List Line) (c : Char) :
    (∀ l, s.current? lines = some l → l.expected? s.char = none) ∧
      s.typeChar lines c = ⟨s, .ignored, []⟩ ∨
    ∃ l e, s.current? lines = some l ∧ l.expected? s.char = some e ∧
      s.typeChar lines c = if c = e then
        ⟨s.hit, if s.char + 1 = l.typingLen then .lineFinished else .handled, [.charTyped true]⟩
      else ⟨s.miss, .handled, [.charTyped false]⟩ := by
  cases hl : s.current? lines with
  | none => exact .inl ⟨fun l h => (nomatch h), by simp [typeChar, hl]⟩
  | some l =>
      cases he : l.expected? s.char with
      | none => exact .inl ⟨fun m hm => Option.some.inj hm ▸ he, by simp [typeChar, hl, he]⟩
      | some e => exact .inr ⟨l, e, rfl, he, by simp [typeChar, hl, he, hit, miss]⟩

theorem whileEmpty_left {s : Session} {lines : List Line}
    (h : nextIndex lines s.line = s.line + 1) :
    let left := { s.pass lines with char := 0, missed := false }
    left.whileEmpty (pass lines) (lines.drop left.line) = s.moveOn lines := by
  intro left
  have hline : left.line = s.line + 1 := h
  have hle : s.line + 1 ≤ nextTypeable lines (s.line + 1) := le_nextTypeable _ _
  have hsub : nextTypeable lines (s.line + 1) - s.line =
      nextTypeable lines (s.line + 1) - (s.line + 1) + 1 := by omega
  rw [whileEmpty_pass, passedTo, hline, moveOn, hsub]
  rfl

/-- Where the index of the line has a next one, the cursor goes on from there. -/
theorem advanceLine_eq {s : Session} {lines : List Line}
    (h : nextIndex lines s.line = s.line + 1) (now : Instant) :
    s.advanceLine lines now =
      if nextTypeable lines (s.line + 1) < lines.length then
        ⟨s.moveOn lines, .nextLine, [.lineCompleted]⟩
      else ⟨{ s.moveOn lines with endedAt := some now }, .testFinished, [.testCompleted]⟩ := by
  have hmoved := whileEmpty_left h
  dsimp only at hmoved
  rw [advanceLine, hmoved]
  rfl

end Session

namespace Practice

def Action.time? : Action → Option Instant
  | .key _ now | .poll now | .completeLine _ now | .togglePause now | .setPreset _ now => some now
  | .reset | .replaceSnippet _ _ => none

def startsOver (p : Practice) : Action → Bool
  | .key k _ => k.classify p.phase == .reset
  | .reset | .replaceSnippet _ _ => true
  | .poll _ | .completeLine _ _ | .togglePause _ | .setPreset _ _ => false

def Action.isSwitch : Action → Bool
  | .setPreset _ _ => true
  | _ => false

def started (p : Practice) (now : Instant) : Practice := { p with session := p.session.start now }

def hit (p : Practice) (l : Line) (now : Instant) : Practice :=
  { p with
    session := p.session.hit
    pending := if p.session.char + 1 = l.typingLen then
      some ⟨p.generation, now + (p.settleDelay : Int)⟩ else p.pending }

def settled (p : Practice) : Practice := { p with pending := none }

def switched (p : Practice) (preset : Preset) : Practice :=
  { p with
    preset := preset
    lines := (p.source.filter preset).lines
    generation := p.generation + 1
    pending := none
    session := { p.session with char := 0, missed := false } }

def renewed (p : Practice) : Practice :=
  { p with
    session := { line := nextTypeable p.lines 0 }
    generation := p.generation + 1
    pending := none
    result := none }

theorem reset_eq (p : Practice) : p.reset = p.renewed := by
  rw [reset, Session.skipToTypeable_eq]
  rfl

theorem begin_session (source : Snippet) (info : SnippetInfo) (preset : Preset)
    (settleDelay : Duration) (recorder : Option Recorder) :
    (begin source info preset settleDelay recorder).session =
      { line := nextTypeable (source.filter preset).lines 0 } := by
  rw [begin, reset_eq, renewed]

theorem replaceSnippet_eq (p : Practice) (source : Snippet) (info : SnippetInfo) :
    p.replaceSnippet source info =
      { p with source, info, lines := (source.filter p.preset).lines }.renewed := reset_eq _

def conclude (p : Practice) (now : Instant) : Reply Unit :=
  { p with session := { p.session.moveOn p.lines with endedAt := some now } }.finish now

def Completes (p : Practice) (a : Action) (now : Instant) : Prop :=
  a = .completeLine p.generation now ∨
  a = .poll now ∧ p.session.paused = false ∧
    ∃ c, p.pending = some c ∧ c.generation = p.generation ∧ c.due ≤ now

/-- How the current line comes to be left: it is typed to its end, or another mode leaves nothing to
type on it. -/
inductive Leaves (p : Practice) (a : Action) (now : Instant) : Practice → Prop
  | typedOut (hc : p.Completes a now) (h : p.phase = .running) (hd : p.lineDone = true) :
      Leaves p a now p.settled
  | emptied (preset : Preset) (ha : a = .setPreset preset now)
      (h : p.phase = .running ∨ p.phase = .paused)
      (hn : (p.switched preset).current?.any Line.isTypeable = false) :
      Leaves p a now (p.switched preset)

/-- The elementary changes that an action makes, with the events that they report and the results
that they hand to the recorder. -/
inductive Move (p : Practice) (a : Action) : Practice → List Event → List Call → Prop
  | start (k : Key) (now : Instant) (ha : a = .key k now) (h : p.phase = .idle) (c : Char)
      (hk : k.classify p.phase = .type c) :
      Move p a { p with session := p.session.start now } [.testStarted] []
  | hit (k : Key) (now : Instant) (ha : a = .key k now) (l : Line) (c : Char)
      (h : p.phase = .running) (hl : p.current? = some l)
      (hc : l.expected? p.session.char = some c) (hk : k.classify p.phase = .type c) :
      Move p a (p.hit l now) [.charTyped true] []
  | miss (k : Key) (now : Instant) (ha : a = .key k now) (l : Line) (c : Char)
      (h : p.phase = .running) (hl : p.current? = some l)
      (hc : l.expected? p.session.char = some c) (d : Char) (hk : k.classify p.phase = .type d)
      (hd : d ≠ c) :
      Move p a { p with session := p.session.miss } [.charTyped false] []
  | pause (now : Instant) (ha : a.time? = some now) (h : p.phase = .running)
      (hover : p.startsOver a = false) (hswitch : a.isSwitch = false) :
      Move p a { p with session := p.session.pause now } [.pauseToggled true] []
  | resume (now : Instant) (ha : a.time? = some now) (h : p.phase = .paused)
      (hover : p.startsOver a = false) (hswitch : a.isSwitch = false) :
      Move p a { p with session := p.session.closePause now } [.pauseToggled false] []
  | forget (now : Instant) (hc : p.Completes a now)
      (h : ¬ (p.phase = .running ∧ p.lineDone = true)) :
      Move p a p.settled [] []
  | nextLine (now : Instant) (q : Practice) (hq : p.Leaves a now q)
      (h : nextTypeable q.lines (q.session.line + 1) < q.lines.length) :
      Move p a { q with session := q.session.moveOn q.lines } [.lineCompleted] []
  | finish (now : Instant) (q : Practice) (hq : p.Leaves a now q)
      (h : q.lines.length ≤ nextTypeable q.lines (q.session.line + 1)) :
      Move p a (q.conclude now).practice [.testCompleted] (q.conclude now).calls
  | resetKey (k : Key) (now : Instant) (ha : a = .key k now) (h : k.classify p.phase = .reset) :
      Move p a p.renewed [.resetRequested] []
  | reset (ha : a = .reset) : Move p a p.renewed [] []
  | switchIdle (preset : Preset) (now : Instant) (ha : a = .setPreset preset now)
      (h : p.phase = .idle) :
      Move p a { p.switched preset with
        session := { (p.switched preset).session with
          line := nextTypeable (p.switched preset).lines 0 } } [] []
  | switch (preset : Preset) (now : Instant) (ha : a = .setPreset preset now)
      (h : p.phase = .complete ∨ (p.phase = .running ∨ p.phase = .paused) ∧
        (p.switched preset).current?.any Line.isTypeable = true) :
      Move p a (p.switched preset) [] []
  | replace (source : Snippet) (info : SnippetInfo) (ha : a = .replaceSnippet source info) :
      Move p a { p with source, info, lines := (source.filter p.preset).lines }.renewed [] []

inductive Moves (a : Action) : Practice → Practice → List Event → List Call → Prop
  | refl (p : Practice) : Moves a p p [] []
  | head {p q r : Practice} {es fs : List Event} {cs ds : List Call}
      (h : Move p a q es cs) (t : Moves a q r fs ds) : Moves a p r (es ++ fs) (cs ++ ds)

variable {p q : Practice} {a : Action} {es : List Event} {cs : List Call}

theorem Move.single (h : Move p a q es cs) : Moves a p q es cs := by
  simpa using Moves.head h (.refl q)

/-- Only an active session is paused, and until the test is complete the cursor is at a line or
right behind the last one. -/
structure Sound (p : Practice) : Prop where
  active : p.session.paused = true → p.session.active = true
  lines_eq : p.lines.length = p.source.lines.length
  line_le : p.phase ≠ .complete → p.session.line ≤ p.lines.length

theorem Sound.phase_start {p : Practice} (hs : p.Sound) (h : p.phase = .idle) (now : Instant) :
    { p with session := p.session.start now }.phase = .running := by
  obtain ⟨hend, hactive⟩ := Session.phase_eq_idle.1 h
  have hpaused : p.session.paused = false :=
    Bool.eq_false_iff.2 fun hp => by simp [hs.active hp] at hactive
  exact Session.phase_eq_running.2 ⟨hend, rfl, hpaused⟩

theorem phase_pause {p : Practice} (h : p.phase = .running) (now : Instant) :
    { p with session := p.session.pause now }.phase = .paused := by
  obtain ⟨hend, hactive, -⟩ := Session.phase_eq_running.1 h
  exact Session.phase_eq_paused.2 ⟨hend, hactive, rfl⟩

theorem phase_resume {p : Practice} (h : p.phase = .paused) (now : Instant) :
    { p with session := p.session.closePause now }.phase = .running := by
  obtain ⟨hend, hactive, -⟩ := Session.phase_eq_paused.1 h
  exact Session.phase_eq_running.2 ⟨hend, hactive, rfl⟩

theorem active_of_phase {p : Practice} (h : p.phase = .running ∨ p.phase = .paused) :
    p.session.endedAt = none ∧ p.session.active = true := by
  rcases h with h | h
  · exact ⟨(Session.phase_eq_running.1 h).1, (Session.phase_eq_running.1 h).2.1⟩
  · exact ⟨(Session.phase_eq_paused.1 h).1, (Session.phase_eq_paused.1 h).2.1⟩

/-- At most one move. An action that starts the session over or switches the mode always makes
one. -/
inductive Turn (p : Practice) (a : Action) : Practice → List Event → List Call → Prop
  | still (hover : p.startsOver a = false) (hswitch : a.isSwitch = false) : Turn p a p [] []
  | move {q : Practice} {es : List Event} {cs : List Call} (h : Move p a q es cs) :
      Turn p a q es cs

theorem Turn.moves (h : Turn p a q es cs) : Moves a p q es cs := by
  cases h with
  | still => exact .refl p
  | move h => exact h.single

def Starts (p : Practice) (a : Action) : Prop :=
  p.phase = .idle ∧ ∃ k now c, a = .key k now ∧ k.classify p.phase = .type c

def follow (p : Practice) (r : Session.Reply Outcome) (now : Instant) : Reply Outcome :=
  let typed := { p with session := r.session }
  { practice := match r.answer with
      | .lineFinished =>
        { typed with pending := some ⟨p.generation, now + (p.settleDelay : Int)⟩ }
      | .resetRequested => typed.reset
      | .handled | .ignored => typed
    answer := r.answer
    events := r.events }

theorem handleKey_eq (p : Practice) (k : Key) (now : Instant) :
    p.handleKey k now = p.follow (p.session.handleKey p.lines k now) now := rfl

theorem handleKey_type {p : Practice} {k : Key} {c : Char} (h : p.phase = .running)
    (hk : k.classify p.phase = .type c) (now : Instant) :
    p.handleKey k now = p.follow (p.session.typeChar p.lines c) now := by
  have hk' : k.classify p.session.phase = .type c := hk
  have hidle : p.session.phase ≠ .idle := by
    intro hi
    exact nomatch hi.symm.trans h
  rw [handleKey_eq, Session.handleKey, hk']
  dsimp only
  rw [if_neg hidle]

theorem classify_started {p : Practice} {k : Key} {c : Char} {now : Instant}
    (h : p.phase = .idle) (hk : k.classify p.phase = .type c)
    (hrunning : (p.started now).phase = .running) :
    k.classify (p.started now).phase = .type c := by
  rw [hrunning]
  rw [h] at hk
  exact Key.classify_running hk

/-- The key that starts the test is then taken as one of the running test. -/
theorem handleKey_start {p : Practice} {k : Key} {c : Char} (hs : p.Sound) (h : p.phase = .idle)
    (hk : k.classify p.phase = .type c) (now : Instant) :
    p.handleKey k now =
      { (p.started now).handleKey k now with
        events := .testStarted :: ((p.started now).handleKey k now).events } := by
  have hrunning : (p.started now).phase = .running := hs.phase_start h now
  have hk' : k.classify (p.started now).phase = .type c := classify_started h hk hrunning
  have hidle : p.session.phase = .idle := h
  rw [handleKey_type hrunning hk', handleKey_eq, Session.handleKey]
  rw [show k.classify p.session.phase = .type c from hk]
  dsimp only
  rw [if_pos hidle]
  rfl

theorem step_start {p : Practice} {k : Key} {c : Char} (hs : p.Sound) (h : p.phase = .idle)
    (hk : k.classify p.phase = .type c) (now : Instant) :
    p.step (.key k now) =
      { (p.started now).step (.key k now) with
        events := .testStarted :: ((p.started now).step (.key k now)).events } := by
  simp only [step, Reply.map]
  rw [handleKey_start hs h hk now]

theorem turn_typeChar {p : Practice} {k : Key} {c : Char} (h : p.phase = .running)
    (hk : k.classify p.phase = .type c) (now : Instant) :
    Turn p (.key k now) (p.follow (p.session.typeChar p.lines c) now).practice
      (p.session.typeChar p.lines c).events [] := by
  rcases p.session.typeChar_cases p.lines c with ⟨-, heq⟩ | ⟨l, e, hl, he, heq⟩
  · rw [heq]
    exact .still (by simp [startsOver, hk]) rfl
  · by_cases hc : c = e
    · subst hc
      have hm := Turn.move (Move.hit k now rfl l c h hl he hk)
      rw [heq, if_pos rfl]
      by_cases hn : p.session.char + 1 = l.typingLen
      · simpa [follow, hit, hn] using hm
      · simpa [follow, hit, hn] using hm
    · rw [heq, if_neg hc]
      exact .move (.miss k now rfl l e h hl he c hk hc)

theorem turn_togglePause {p : Practice} {a : Action} {now : Instant} (ha : a.time? = some now)
    (hover : p.startsOver a = false) (hswitch : a.isSwitch = false) :
    Turn p a { p with session := (p.session.togglePause now).session }
      (p.session.togglePause now).events [] := by
  cases hp : p.session.phase with
  | idle | complete => simpa [Session.togglePause, hp] using Turn.still hover hswitch
  | running =>
      simpa [Session.togglePause, hp, Session.pause] using
        Turn.move (.pause now ha hp hover hswitch)
  | paused =>
      simpa [Session.togglePause, hp] using Turn.move (.resume now ha hp hover hswitch)

theorem turn_handleKey {p : Practice} {k : Key} {now : Instant}
    (h : ¬ p.Starts (.key k now)) :
    Turn p (.key k now) (p.handleKey k now).practice (p.handleKey k now).events [] := by
  cases hk : k.classify p.phase with
  | ignore =>
      rw [handleKey_eq, Session.handleKey, show k.classify p.session.phase = .ignore from hk]
      exact .still (by simp [startsOver, hk]) rfl
  | reset =>
      rw [handleKey_eq, Session.handleKey, show k.classify p.session.phase = .reset from hk]
      have hreset : Turn p (.key k now) p.reset [.resetRequested] [] := by
        rw [reset_eq]
        exact .move (.resetKey k now rfl hk)
      exact hreset
  | togglePause =>
      rw [handleKey_eq, Session.handleKey, show k.classify p.session.phase = .togglePause from hk]
      exact turn_togglePause rfl (by simp [startsOver, hk]) rfl
  | type c =>
      have hidle : p.phase ≠ .idle := fun hi => h ⟨hi, k, now, c, rfl, hk⟩
      have hr : p.phase = .running := (Key.phase_of_classify_type hk).resolve_left hidle
      rw [handleKey_type hr hk]
      exact turn_typeChar hr hk now

theorem Completes.time {p : Practice} {a : Action} {now : Instant} (h : p.Completes a now) :
    a.time? = some now := by
  rcases h with rfl | ⟨rfl, -⟩ <;> rfl

theorem Completes.not_startsOver {p : Practice} {a : Action} {now : Instant}
    (h : p.Completes a now) : p.startsOver a = false ∧ a.isSwitch = false := by
  rcases h with rfl | ⟨rfl, -⟩ <;> exact ⟨rfl, rfl⟩

theorem Leaves.time {p q : Practice} {a : Action} {now : Instant} (h : p.Leaves a now q) :
    a.time? = some now := by
  cases h with
  | typedOut hc => exact hc.time
  | emptied preset ha => rw [ha]; rfl

theorem advance_eq {p : Practice} (h : p.session.line ≤ p.lines.length) (now : Instant) :
    p.advance now =
      if nextTypeable p.lines (p.session.line + 1) < p.lines.length then
        { practice := { p with session := p.session.moveOn p.lines }, answer := (),
          events := [.lineCompleted] }
      else { p.conclude now with events := [.testCompleted] } := by
  have hleft := Session.advanceLine_eq (Session.nextIndex_of_le h) now
  by_cases hn : nextTypeable p.lines (p.session.line + 1) < p.lines.length
  · simp [advance, hleft, hn]
  · simp [advance, hleft, hn, conclude, finish]

theorem Sound.length_switched {p : Practice} (hs : p.Sound) (preset : Preset) :
    (p.switched preset).lines.length = p.lines.length := by
  rw [hs.lines_eq]
  exact List.length_map _

theorem Leaves.line_le {p q : Practice} {a : Action} {now : Instant} (h : p.Leaves a now q)
    (hs : p.Sound) : q.session.line ≤ q.lines.length := by
  have hcomplete : p.phase = .running ∨ p.phase = .paused → p.phase ≠ .complete := by
    rintro (hp | hp) <;> exact fun hc => nomatch hp.symm.trans hc
  cases h with
  | typedOut _ h => exact hs.line_le (hcomplete (.inl h))
  | emptied preset _ h =>
      rw [hs.length_switched preset]
      exact hs.line_le (hcomplete h)

theorem move_advance {p q : Practice} {a : Action} {now : Instant} (hs : p.Sound)
    (hq : p.Leaves a now q) :
    Move p a (q.advance now).practice (q.advance now).events (q.advance now).calls := by
  rw [advance_eq (hq.line_le hs)]
  by_cases hn : nextTypeable q.lines (q.session.line + 1) < q.lines.length
  · rw [if_pos hn]
    exact .nextLine now q hq hn
  · rw [if_neg hn]
    exact .finish now q hq (Nat.not_lt.1 hn)

theorem completeLine_stale {p : Practice} {generation : Nat} (h : generation ≠ p.generation)
    (now : Instant) : p.completeLine generation now = { practice := p, answer := false } := by
  rw [completeLine, if_pos h]

theorem completeLine_done {p : Practice} (h : p.phase = .running) (hd : p.lineDone = true)
    (now : Instant) :
    p.completeLine p.generation now = { p.settled.advance now with answer := true } := by
  rw [completeLine, if_neg (not_not_intro rfl), if_pos ⟨h, hd⟩]
  rfl

theorem completeLine_refused {p : Practice} (h : ¬ (p.phase = .running ∧ p.lineDone = true))
    (now : Instant) :
    p.completeLine p.generation now = { practice := p.settled, answer := false } := by
  rw [completeLine, if_neg (not_not_intro rfl), if_neg h]
  rfl

theorem move_completeLine {p : Practice} {a : Action} {now : Instant} (hs : p.Sound)
    (hc : p.Completes a now) :
    Move p a (p.completeLine p.generation now).practice (p.completeLine p.generation now).events
      (p.completeLine p.generation now).calls := by
  by_cases hd : p.phase = .running ∧ p.lineDone = true
  · rw [completeLine_done hd.1 hd.2]
    exact move_advance hs (.typedOut hc hd.1 hd.2)
  · rw [completeLine_refused hd]
    exact .forget now hc hd

theorem turn_poll {p : Practice} (hs : p.Sound) (now : Instant) :
    Turn p (.poll now) (p.poll now).practice (p.poll now).events (p.poll now).calls := by
  have hstill : Turn p (.poll now) p [] [] := .still rfl rfl
  cases hp : p.pending with
  | none => simpa [poll, hp] using hstill
  | some c =>
      by_cases hdue : c.due ≤ now ∧ p.session.paused = false
      · by_cases hg : c.generation = p.generation
        · have hc : p.Completes (.poll now) now := .inr ⟨rfl, hdue.2, c, hp, hg, hdue.1⟩
          simpa [poll, hp, hdue, hg] using Turn.move (move_completeLine hs hc)
        · simpa [poll, hp, hdue, completeLine_stale hg] using hstill
      · simpa [poll, hp, hdue] using hstill

theorem setPreset_eq (p : Practice) (preset : Preset) (now : Instant) :
    p.setPreset preset now = match p.phase with
      | .idle =>
        { practice := { p.switched preset with
            session := { (p.switched preset).session with
              line := nextTypeable (p.switched preset).lines 0 } }
          answer := () }
      | .running | .paused =>
        if (p.switched preset).current?.any Line.isTypeable then
          { practice := p.switched preset, answer := () }
        else (p.switched preset).advance now
      | .complete => { practice := p.switched preset, answer := () } := by
  have hskip := Session.skipToTypeable_eq { (p.switched preset).session with line := 0 }
    (p.switched preset).lines
  dsimp only at hskip
  rw [← hskip]
  rfl

theorem setPreset_active {p : Practice} (h : p.phase = .running ∨ p.phase = .paused)
    (preset : Preset) (now : Instant) :
    p.setPreset preset now =
      if (p.switched preset).current?.any Line.isTypeable then
        { practice := p.switched preset, answer := () }
      else (p.switched preset).advance now := by
  rw [setPreset_eq]
  rcases h with h | h <;> rw [h]

theorem setPreset_goesOn {p : Practice} {preset : Preset} {j : Nat}
    (h : p.phase = .running ∨ p.phase = .paused)
    (hj : NextTypeable (p.switched preset).lines p.session.line j) (now : Instant) :
    p.setPreset preset now =
      { practice := { p.switched preset with
          session := { p.session with
            line := j
            char := 0
            missed := false
            completed := p.session.completed.insertMany
              (List.range' p.session.line (j - p.session.line)) } }
        answer := ()
        events := if p.session.line < j then [.lineCompleted] else [] } := by
  have hlt : p.session.line < (p.switched preset).lines.length :=
    Nat.lt_of_le_of_lt hj.le hj.lt_length
  have hl := List.getElem?_eq_getElem hlt
  have hcurrent : (p.switched preset).current? = some (p.switched preset).lines[p.session.line] :=
    hl
  have hj' := Session.eq_nextTypeable hj
  rw [setPreset_active h, hcurrent, Option.any_some]
  -- the cursor stays, or the line under it is left like one that was typed out
  cases ht : (p.switched preset).lines[p.session.line].isTypeable with
  | true =>
      obtain rfl : j = p.session.line := hj'.trans (Session.nextTypeable_of_typeable hl ht)
      rw [if_pos rfl, if_neg (Nat.lt_irrefl _), Nat.sub_self]
      rfl
  | false =>
      have hnext :
          j = nextTypeable (p.switched preset).lines ((p.switched preset).session.line + 1) :=
        hj'.trans (Session.nextTypeable_of_not_typeable hl ht)
      have hpassed : p.session.line < j := hnext ▸ Session.le_nextTypeable _ _
      have hle : (p.switched preset).session.line ≤ (p.switched preset).lines.length :=
        Nat.le_of_lt hlt
      rw [if_neg Bool.false_ne_true, if_pos hpassed, advance_eq hle, ← hnext, if_pos hj.lt_length,
        Session.moveOn, ← hnext]
      rfl

theorem setPreset_ends {p : Practice} {preset : Preset}
    (hs : p.Sound) (h : p.phase = .running ∨ p.phase = .paused)
    (hnone : ∀ l ∈ (p.switched preset).lines.drop p.session.line, l.isTypeable = false)
    (now : Instant) :
    p.setPreset preset now =
      { (p.switched preset).conclude now with events := [.testCompleted] } := by
  obtain ⟨hline, hrest⟩ := forall_drop_iff.1 hnone
  have hcurrent : ¬ (p.switched preset).current?.any Line.isTypeable = true := by
    intro hany
    obtain ⟨l, hl, ht⟩ := (Option.any_eq_true _ _).1 hany
    exact Bool.noConfusion (ht.symm.trans (hline l hl))
  have hend : ¬ nextTypeable (p.switched preset).lines ((p.switched preset).session.line + 1) <
      (p.switched preset).lines.length :=
    Nat.not_lt.2 (Session.length_le_nextTypeable_iff.2 hrest)
  have hleaves : p.Leaves (.setPreset preset now) now (p.switched preset) :=
    .emptied preset rfl h (Bool.eq_false_iff.2 hcurrent)
  rw [setPreset_active h, if_neg hcurrent, advance_eq (hleaves.line_le hs), if_neg hend]

theorem move_setPreset {p : Practice} (hs : p.Sound) (preset : Preset) (now : Instant) :
    Move p (.setPreset preset now) (p.setPreset preset now).practice
      (p.setPreset preset now).events (p.setPreset preset now).calls := by
  rw [setPreset_eq]
  cases hp : p.phase with
  | idle => exact .switchIdle preset now rfl hp
  | complete => exact .switch preset now rfl (.inl hp)
  | running | paused =>
      by_cases ht : (p.switched preset).current?.any Line.isTypeable = true
      · dsimp only
        rw [if_pos ht]
        exact .switch preset now rfl (.inr ⟨by simp [hp], ht⟩)
      · dsimp only
        rw [if_neg ht]
        exact move_advance hs (.emptied preset rfl (by simp [hp]) (Bool.eq_false_iff.2 ht))

theorem turn_step {p : Practice} {a : Action} (hs : p.Sound) (h : ¬ p.Starts a) :
    Turn p a (p.step a).practice (p.step a).events (p.step a).calls := by
  cases a with
  | key k now => exact turn_handleKey h
  | poll now => exact turn_poll hs now
  | completeLine generation now =>
      by_cases hg : generation = p.generation
      · subst hg
        exact .move (move_completeLine hs (.inl rfl))
      · simpa [step, completeLine_stale hg, Reply.map] using
          Turn.still (p := p) (a := .completeLine generation now) rfl rfl
  | togglePause now => exact turn_togglePause rfl rfl rfl
  | reset =>
      have hreset : Turn p .reset p.reset [] [] := by
        rw [reset_eq]
        exact .move (.reset rfl)
      exact hreset
  | setPreset preset now => exact .move (move_setPreset hs preset now)
  | replaceSnippet source info =>
      have hreplace :
          Turn p (.replaceSnippet source info) (p.replaceSnippet source info) [] [] := by
        rw [replaceSnippet_eq]
        exact .move (.replace source info rfl)
      exact hreplace

theorem not_starts_of_phase {p : Practice} {a : Action} (h : p.phase = .running) :
    ¬ p.Starts a := by
  rintro ⟨hidle, -⟩
  exact nomatch hidle.symm.trans h

theorem length_filter_lines (source : Snippet) (preset : Preset) :
    (source.filter preset).lines.length = source.lines.length := List.length_map _

theorem sound_renewed (h : p.lines.length = p.source.lines.length) : p.renewed.Sound where
  active hp := nomatch hp
  lines_eq := h
  line_le _ := Session.nextTypeable_le_length (Nat.zero_le _)

theorem begin_sound (source : Snippet) (info : SnippetInfo) (preset : Preset)
    (settleDelay : Duration) (recorder : Option Recorder) :
    (begin source info preset settleDelay recorder).Sound := by
  rw [begin, reset_eq]
  exact sound_renewed (length_filter_lines source preset)

theorem Sound.switched (hs : p.Sound) (preset : Preset) : (p.switched preset).Sound where
  active := hs.active
  lines_eq := (hs.length_switched preset).trans hs.lines_eq
  line_le hp := hs.length_switched preset ▸ hs.line_le hp

theorem Leaves.sound {now : Instant} (h : p.Leaves a now q) (hs : p.Sound) : q.Sound := by
  cases h with
  | typedOut => exact ⟨hs.active, hs.lines_eq, hs.line_le⟩
  | emptied preset => exact hs.switched preset

theorem Move.sound (hs : p.Sound) (h : Move p a q es cs) : q.Sound := by
  cases h with
  | start _ _ _ h => exact ⟨fun _ => rfl, hs.lines_eq, fun _ => hs.line_le (by simp [h])⟩
  | pause now _ h =>
      exact ⟨fun _ => (Session.phase_eq_running.1 h).2.1, hs.lines_eq,
        fun _ => hs.line_le (by simp [h])⟩
  | resume now _ h => exact ⟨fun hp => (nomatch hp), hs.lines_eq, fun _ => hs.line_le (by simp [h])⟩
  | hit | miss | forget => exact ⟨hs.active, hs.lines_eq, hs.line_le⟩
  | switch preset => exact hs.switched preset
  | switchIdle preset =>
      exact ⟨hs.active, (hs.switched preset).lines_eq,
        fun _ => Session.nextTypeable_le_length (Nat.zero_le _)⟩
  | nextLine now q hq h =>
      have hq' := hq.sound hs
      exact ⟨hq'.active, hq'.lines_eq, fun _ => Nat.le_of_lt h⟩
  | finish now q hq =>
      have hcomplete : (q.conclude now).practice.phase = .complete :=
        Session.phase_eq_complete.2 rfl
      exact ⟨fun hp => (nomatch hp), (hq.sound hs).lines_eq, fun hp => absurd hcomplete hp⟩
  | resetKey | reset => exact sound_renewed hs.lines_eq
  | replace source => exact sound_renewed (length_filter_lines source p.preset)

/-- The key starts the test, and is then taken as one of the running test. -/
structure Opens (p : Practice) (a : Action) (k : Key) (now : Instant) (es : List Event) :
    Prop where
  key : a = .key k now
  idle : p.phase = .idle
  types : ∃ c, k.classify p.phase = .type c
  running : (p.started now).phase = .running
  start : Move p a (p.started now) [.testStarted] []
  turn : Turn (p.started now) a (p.step a).practice es (p.step a).calls
  events_eq : (p.step a).events = .testStarted :: es

/-- A step is at most one move, or two with the start of the test. -/
theorem step_cases (hs : p.Sound) (a : Action) :
    Turn p a (p.step a).practice (p.step a).events (p.step a).calls ∨
      ∃ k now es, p.Opens a k now es := by
  by_cases h : p.Starts a
  · obtain ⟨hidle, k, now, c, rfl, hk⟩ := h
    have hrunning : (p.started now).phase = .running := hs.phase_start hidle now
    have hstart : Move p (.key k now) (p.started now) [.testStarted] [] :=
      .start k now rfl hidle c hk
    have hstep := step_start hs hidle hk now
    have hturn := turn_step (a := .key k now) (hstart.sound hs) (not_starts_of_phase hrunning)
    exact .inr ⟨k, now, _, {
      key := rfl
      idle := hidle
      types := ⟨c, hk⟩
      running := hrunning
      start := hstart
      turn := by
        rw [hstep]
        exact hturn
      events_eq := congrArg Reply.events hstep }⟩
  · exact .inl (turn_step hs h)

/-- A step is a path of moves. -/
theorem moves_step (p : Practice) (hs : p.Sound) (a : Action) :
    Moves a p (p.step a).practice (p.step a).events (p.step a).calls := by
  rcases step_cases hs a with hturn | ⟨k, now, es, hopens⟩
  · exact hturn.moves
  · rw [hopens.events_eq]
    exact Moves.head hopens.start hopens.turn.moves

theorem Moves.preserves {P : Practice → Prop}
    (hmove : ∀ {p q es cs}, P p → Move p a q es cs → P q)
    (h : Moves a p q es cs) (hp : P p) : P q := by
  induction h with
  | refl p => exact hp
  | head hm _ ih => exact ih (hmove hp hm)

theorem Leaves.phase_eq {now : Instant} (h : p.Leaves a now q) : q.phase = p.phase := by
  cases h <;> rfl

theorem Leaves.running_or_paused {now : Instant} (h : p.Leaves a now q) :
    p.phase = .running ∨ p.phase = .paused := by
  cases h with
  | typedOut _ h => exact .inl h
  | emptied _ _ h => exact h

theorem step_sound (hs : p.Sound) (a : Action) : (p.step a).practice.Sound :=
  (moves_step p hs a).preserves (P := Sound) (fun h hm => hm.sound h) hs

/-- What every move of an action keeps, the action keeps. -/
theorem step_preserves {P : Practice → Prop} (hs : p.Sound) (hp : P p)
    (hmove : ∀ {p q es cs}, p.Sound → P p → Move p a q es cs → P q) :
    (p.step a).practice.Sound ∧ P (p.step a).practice :=
  (moves_step p hs a).preserves (P := fun q => q.Sound ∧ P q)
    (fun h hm => ⟨hm.sound h.1, hmove h.1 h.2 hm⟩) ⟨hs, hp⟩

theorem run_preserves {P : Practice → Prop} {actions : List Action} (hs : p.Sound) (hp : P p)
    (hmove : ∀ {a p q es cs}, a ∈ actions → p.Sound → P p → Move p a q es cs → P q) :
    (p.run actions).practice.Sound ∧ P (p.run actions).practice := by
  induction actions generalizing p with
  | nil => exact ⟨hs, hp⟩
  | cons a rest ih =>
      obtain ⟨hs', hp'⟩ := step_preserves hs hp (hmove (List.mem_cons_self ..))
      exact ih hs' hp' fun hb => hmove (List.mem_cons_of_mem _ hb)

theorem run_sound (hs : p.Sound) (actions : List Action) : (p.run actions).practice.Sound :=
  (run_preserves (P := Sound) hs hs fun _ _ h hm => hm.sound h).1

theorem run_append (p : Practice) (xs ys : List Action) :
    (p.run (xs ++ ys)).practice = ((p.run xs).practice.run ys).practice := by
  induction xs generalizing p with
  | nil => rfl
  | cons a xs ih => exact ih (p.step a).practice

end Practice

end TypingTrainer
