import TypingTrainer.Proofs.Cursor

namespace TypingTrainer.Practice

/-- The lines are those of the typing mode, and a pending completion is one of the present
generation for the current line, which is typed to its end. -/
structure Scheduled (p : Practice) : Prop where
  lines_eq : p.lines = (p.source.filter p.preset).lines
  generation_eq : ∀ c, p.pending = some c → c.generation = p.generation
  done : ∀ c, p.pending = some c → p.lineDone = true
  active : ∀ c, p.pending = some c → p.phase = .running ∨ p.phase = .paused

variable {p q : Practice} {a : Action} {es : List Event} {cs : List Call} {c : Completion}
variable {generation : Nat} {now : Instant}

theorem scheduled_none (h : p.lines = (p.source.filter p.preset).lines) (hp : p.pending = none) :
    p.Scheduled := by
  constructor <;> simp [h, hp]

theorem Scheduled.pending_eq_none (hi : p.Scheduled) (h : p.phase = .idle ∨ p.phase = .complete) :
    p.pending = none := by
  cases hc : p.pending with
  | none => rfl
  | some c => rcases h with h | h <;> rcases hi.active c hc with ha | ha <;> cases h.symm.trans ha

theorem Scheduled.hit (hi : p.Scheduled) {l : Line} {e : Char} (h : p.phase = .running)
    (hl : p.current? = some l) (he : l.expected? p.session.char = some e) :
    (p.hit l now).Scheduled := by
  have hlt : p.session.char < l.typingLen := (l.expected?_isSome_iff _).1 (by simp [he])
  have hcurrent : (p.hit l now).current? = some l := hl
  have hchar : (p.hit l now).session.char = p.session.char + 1 := rfl
  by_cases hn : p.session.char + 1 = l.typingLen
  · refine ⟨hi.lines_eq, ?_, fun _ _ => ?_, fun _ _ => .inl h⟩
    · intro c hc
      simp only [Practice.hit, if_pos hn, Option.some.injEq] at hc
      rw [← hc]
      rfl
    · rw [lineDone, hcurrent, hchar, hn]
      simp
  · have hpending : (p.hit l now).pending = p.pending := if_neg hn
    refine scheduled_none (p := p.hit l now) hi.lines_eq ?_
    cases hc : p.pending with
    | none => rw [hpending, hc]
    | some c =>
        have hdone := hi.done c hc
        rw [lineDone, hl, Option.any_some, decide_eq_true_eq] at hdone
        omega

theorem Scheduled.move (hi : p.Scheduled) (h : Move p a q es cs) : q.Scheduled := by
  cases h with
  | start k now _ h => exact scheduled_none hi.lines_eq (hi.pending_eq_none (.inl h))
  | hit k now _ l c h hl hc => exact hi.hit h hl hc
  | miss => exact { hi with }
  | pause now _ h => exact { hi with active := fun _ _ => .inr (phase_pause h now) }
  | resume now _ h => exact { hi with active := fun _ _ => .inl (phase_resume h now) }
  | forget => exact scheduled_none hi.lines_eq rfl
  | nextLine now q hq | finish now q hq =>
      exact scheduled_none (hq.lines_eq hi.lines_eq) hq.pending_eq
  | resetKey | reset => exact scheduled_none hi.lines_eq rfl
  | replace | switchIdle | switch => exact scheduled_none rfl rfl

theorem run_scheduled (hs : p.Sound) (hi : p.Scheduled) (actions : List Action) :
    (p.run actions).practice.Scheduled :=
  (run_preserves (P := Scheduled) hs hi fun _ _ hi hm => hi.move hm).2

theorem completeLine_answer (p : Practice) (generation : Nat) (now : Instant) :
    (p.completeLine generation now).answer = true ↔
      generation = p.generation ∧ p.phase = .running ∧ p.lineDone = true := by
  by_cases hg : generation = p.generation
  · by_cases hd : p.phase = .running ∧ p.lineDone = true
    · simp [hg, hd, completeLine_done hd.1 hd.2]
    · rw [hg, completeLine_refused hd]
      simpa using hd
  · simp [hg, completeLine_stale hg]

theorem Scheduled.running_of_not_paused (hi : p.Scheduled) (hc : p.pending = some c)
    (hpaused : p.phase ≠ .paused) : p.phase = .running ∧ p.lineDone = true :=
  ⟨(hi.active c hc).resolve_right hpaused, hi.done c hc⟩

theorem Scheduled.completeLine_kept (hi : p.Scheduled)
    (h : (p.completeLine generation now).answer = false)
    (hpause : ¬ (generation = p.generation ∧ p.phase = .paused)) :
    p.completeLine generation now = { practice := p, answer := false } := by
  by_cases hg : generation = p.generation
  · subst hg
    have hd : ¬ (p.phase = .running ∧ p.lineDone = true) := by
      intro hd
      rw [(completeLine_answer p p.generation now).2 ⟨rfl, hd⟩] at h
      cases h
    have hnone : p.pending = none := by
      cases hc : p.pending with
      | none => rfl
      | some c => exact absurd (hi.running_of_not_paused hc fun hp => hpause ⟨rfl, hp⟩) hd
    have hsettled : p.settled = p := by rw [settled, ← hnone]
    rw [completeLine_refused hd, hsettled]
  · exact completeLine_stale hg now

theorem Scheduled.poll_due (hi : p.Scheduled) (hc : p.pending = some c) (hdue : c.due ≤ now)
    (hpaused : p.session.paused = false) : (p.poll now).answer = true := by
  have hphase : p.phase ≠ .paused := by
    intro h
    rw [(Session.phase_eq_paused.1 h).2.2] at hpaused
    cases hpaused
  have hpoll : p.poll now = p.completeLine c.generation now := by simp [poll, hc, hdue, hpaused]
  rw [hpoll, completeLine_answer]
  exact ⟨hi.generation_eq c hc, hi.running_of_not_paused hc hphase⟩

theorem Scheduled.poll_kept (hi : p.Scheduled) (h : (p.poll now).answer = false) :
    p.poll now = { practice := p, answer := false } := by
  cases hc : p.pending with
  | none => simp [poll, hc]
  | some c =>
      by_cases hdue : c.due ≤ now ∧ p.session.paused = false
      · rw [hi.poll_due hc hdue.1 hdue.2] at h
        cases h
      · simp [poll, hc, hdue]

/-- A poll that completes nothing leaves everything as it was, and so does a completion that is
refused, except in one case: during a pause a completion of the present generation is refused as
well, and the pending one is lost with it. If it is not, it runs after the pause. -/
theorem refusal_run (source : Snippet) (info : SnippetInfo) (preset : Preset)
    (settleDelay : Duration) (recorder : Option Recorder) (actions : List Action)
    (generation : Nat) (now : Instant) :
    let p := ((begin source info preset settleDelay recorder).run actions).practice
    ((p.completeLine generation now).answer = false →
      ¬ (generation = p.generation ∧ p.phase = .paused) →
      p.completeLine generation now = { practice := p, answer := false }) ∧
    (p.phase = .paused →
      p.completeLine p.generation now = { practice := { p with pending := none }, answer := false } ∧
      ∀ c, p.pending = some c → ∀ resumed, c.due ≤ now →
        ((p.togglePause resumed).practice.poll now).answer = true) ∧
    ((p.poll now).answer = false → p.poll now = { practice := p, answer := false }) := by
  intro p
  have hs : p.Sound := run_sound (begin_sound source info preset settleDelay recorder) actions
  have hi : p.Scheduled :=
    run_scheduled (begin_sound source info preset settleDelay recorder) (scheduled_none rfl rfl)
      actions
  refine ⟨hi.completeLine_kept, fun hp => ⟨?_, ?_⟩, hi.poll_kept⟩
  · apply completeLine_refused
    rintro ⟨hr, -⟩
    cases hp.symm.trans hr
  · intro c hc resumed hdue
    have hm : Move p (.togglePause resumed) { p with session := p.session.closePause resumed }
        [.pauseToggled false] [] := .resume resumed rfl hp rfl rfl
    have hresumed : (p.togglePause resumed).practice =
        { p with session := p.session.closePause resumed } := by
      have hphase : p.session.phase = .paused := hp
      simp [togglePause, Session.togglePause, hphase]
    rw [hresumed]
    exact (hi.move hm).poll_due hc hdue rfl

/-- A typed word in a pause: an old completion and a poll are refused and change nothing, and the
pending completion runs after the pause. -/
theorem refusal_run_pause :
    let p := ((begin (.ofWords ["ab", "c"]) {} .full 50 none).run
      [.key (.plain 'a') 10, .key (.plain 'b') 20, .togglePause 30]).practice
    p.pending = some ⟨1, 70⟩ ∧
      p.completeLine 0 100 = { practice := p, answer := false } ∧
      p.poll 100 = { practice := p, answer := false } ∧
      ((p.togglePause 40).practice.poll 100).answer = true := by
  obtain ⟨hstale, hpause, hpoll⟩ := refusal_run (.ofWords ["ab", "c"]) {} .full 50 none
    [.key (.plain 'a') 10, .key (.plain 'b') 20, .togglePause 30] 0 100
  exact ⟨by decide, hstale (by decide) (by decide), hpoll (by decide),
    (hpause (by decide)).2 ⟨1, 70⟩ (by decide) 40 (by decide)⟩

/-- The completion of the typed word, asked for in the pause, is refused, and none is pending
afterwards. -/
theorem refusal_forgets :
    ¬ ∀ (source : Snippet) (info : SnippetInfo) (preset : Preset) (settleDelay : Duration)
      (recorder : Option Recorder) (actions : List Action) (generation : Nat) (now : Instant),
      let p := ((begin source info preset settleDelay recorder).run actions).practice
      (p.completeLine generation now).answer = false →
        p.completeLine generation now = { practice := p, answer := false } := by
  intro h
  have hkept := h (.ofWords ["ab", "c"]) {} .full 50 none
    [.key (.plain 'a') 10, .key (.plain 'b') 20, .togglePause 30] 1 100 (by decide)
  have hpending := congrArg (fun r => r.practice.pending) hkept
  exact absurd hpending (by decide)

end TypingTrainer.Practice
