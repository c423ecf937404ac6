import TypingTrainer.Proofs.Generation
import TypingTrainer.Proofs.Lifecycle
import TypingTrainer.Proofs.Mirror
import TypingTrainer.Proofs.Pending

namespace TypingTrainer.Practice

variable {c fresh : Practice} {a : Action}

/-- `fresh` is the practice that could be begun instead of doing `a`. -/
inductive Renews (c : Practice) : Action → Practice → Prop
  | replace (source : Snippet) (info : SnippetInfo) :
      Renews c (.replaceSnippet source info)
        (begin source info c.preset c.settleDelay c.recorder)
  | reset : Renews c .reset (begin c.source c.info c.preset c.settleDelay c.recorder)
  | resetKey (k : Key) (now : Instant) (h : (c.handleKey k now).answer = .resetRequested) :
      Renews c (.key k now) (begin c.source c.info c.preset c.settleDelay c.recorder)
  | switchIdle (preset : Preset) (now : Instant) (h : c.phase = .idle) :
      Renews c (.setPreset preset now) (begin c.source c.info preset c.settleDelay c.recorder)

theorem reset_eq_mirror (h : c.lines = (c.source.filter c.preset).lines) :
    c.reset = (begin c.source c.info c.preset c.settleDelay c.recorder).mirror c.generation
      c.recorder := by
  simp [begin, reset, mirror, h, Nat.add_comm]

theorem step_resetKey {k : Key} {now : Instant}
    (h : (c.handleKey k now).answer = .resetRequested) :
    (c.step (.key k now)).practice = c.reset := by
  have hfollow : (c.session.handleKey c.lines k now).answer = .resetRequested := h
  have hk : k.classify c.session.phase = .reset := by
    rwa [Session.handleKey_answer_eq_reset_iff] at hfollow
  simp only [step, Reply.map]
  rw [handleKey_eq, Session.handleKey, hk]
  rfl

theorem step_switchIdle (hl : c.Lifecycle) (h : c.phase = .idle) (preset : Preset)
    (now : Instant) :
    (c.step (.setPreset preset now)).practice =
      (begin c.source c.info preset c.settleDelay c.recorder).mirror c.generation c.recorder := by
  have hresult : c.result = none := hl.result_eq_none (by simp [h])
  obtain ⟨line, hline⟩ : ∃ line, c.session = { line := line } := ⟨_, hl.idle h⟩
  simp only [step, Reply.map]
  rw [setPreset_eq, h]
  simp [begin, reset_eq, renewed, mirror, switched, hresult, hline, Nat.add_comm]

theorem Renews.step (hi : c.Scheduled) (hl : c.Lifecycle) (h : c.Renews a fresh) :
    (c.step a).practice = fresh.mirror c.generation fresh.recorder := by
  cases h with
  | replace source info =>
      exact reset_eq_mirror
        (c := { c with source, info, lines := (source.filter c.preset).lines }) rfl
  | reset => exact reset_eq_mirror hi.lines_eq
  | resetKey k now h => exact (step_resetKey h).trans (reset_eq_mirror hi.lines_eq)
  | switchIdle preset now h => exact step_switchIdle hl h preset now

theorem Renews.begun (h : c.Renews a fresh) : fresh.Sound ∧ fresh.pending = none := by
  cases h with
  | replace | reset | resetKey | switchIdle => exact ⟨begin_sound _ _ _ _ _, rfl⟩

/-- Whatever a practice went through, after a replacement of the snippet, a reset or a switch of the
mode without a test it agrees with a fresh one in all but the number of its generation, and so it
does after any run. A completion that the one is asked for by its generation is to be asked of the
other by the corresponding one. -/
theorem renewal_run (source : Snippet) (info : SnippetInfo) (preset : Preset)
    (settleDelay : Duration) (recorder : Option Recorder) (actions : List Action) (a : Action)
    (fresh : Practice) :
    let c := ((begin source info preset settleDelay recorder).run actions).practice
    let q := (c.step a).practice
    c.Renews a fresh →
      q = { fresh with generation := fresh.generation + c.generation } ∧
      ∀ more : List Action,
        let r := fresh.run more
        let s := q.run (more.map (Action.later c.generation))
        s.answer = r.answer ∧ s.events = r.events ∧ s.calls = r.calls ∧
        s.practice = { r.practice with
          generation := r.practice.generation + c.generation
          pending := r.practice.pending.map (Completion.later c.generation) } := by
  intro c q h
  have hs : (begin source info preset settleDelay recorder).Sound :=
    begin_sound source info preset settleDelay recorder
  have hi : c.Scheduled := run_scheduled hs (scheduled_none rfl rfl) actions
  have hl : c.Lifecycle := run_lifecycle hs (lifecycle_idle _ (begin_session ..) rfl) actions
  have hq : q = fresh.mirror c.generation fresh.recorder := h.step hi hl
  obtain ⟨hsound, hpending⟩ := h.begun
  refine ⟨?_, fun more => ?_⟩
  · rw [hq, mirror, hpending]
    rfl
  · have hmirrors := mirrors_run hsound c.generation fresh.recorder more
    have hrecorder := run_recorder hsound more
    dsimp only
    rw [hq]
    refine ⟨hmirrors.answer_eq, hmirrors.events_eq, hmirrors.calls_eq hrecorder, ?_⟩
    rw [hmirrors.practice_eq, mirror, hrecorder]

/-- After a slip, a typed character and a pause, the reset key: the line is typed and completed as
in the first generation of a fresh practice. -/
theorem renewal_run_resetKey :
    let c := ((begin (.ofWords ["ab", "c"]) {} .full 50 none).run
      [.key (.plain 'x') 5, .key (.plain 'a') 10, .togglePause 20]).practice
    let fresh := begin (.ofWords ["ab", "c"]) {} .full 50 none
    let q := (c.step (.key { code := Key.resetCode } 30)).practice
    c.phase = .paused ∧ c.session.errors = 1 ∧ q.session = fresh.session ∧ q.generation = 2 ∧
      (q.run [.key (.plain 'a') 40, .key (.plain 'b') 50, .completeLine 2 60]).answer =
        [.outcome .handled, .outcome .lineFinished, .advanced true] := by
  obtain ⟨hq, hmore⟩ := renewal_run (.ofWords ["ab", "c"]) {} .full 50 none
    [.key (.plain 'x') 5, .key (.plain 'a') 10, .togglePause 20]
    (.key { code := Key.resetCode } 30) (begin (.ofWords ["ab", "c"]) {} .full 50 none)
    (.resetKey _ 30 (by decide))
  have hsession := congrArg Practice.session hq
  have hgeneration := congrArg Practice.generation hq
  have hsame := (hmore [.key (.plain 'a') 40, .key (.plain 'b') 50, .completeLine 1 60]).1
  exact ⟨by decide, by decide, hsession, hgeneration.trans (by decide),
    hsame.trans (by decide +kernel)⟩

end TypingTrainer.Practice
