import TypingTrainer.Proofs.Moves

namespace TypingTrainer.Practice

variable {p q : Practice} {a : Action} {es : List Event} {cs : List Call} {now : Instant}

/-- The flags and times of a practice go with its phase. -/
structure Lifecycle (p : Practice) : Prop where
  result_iff : p.result.isSome = true ↔ p.session.endedAt.isSome = true
  ended_iff : p.session.endedAt.isSome = true ↔ p.phase = .complete
  complete : p.phase = .complete →
    p.session.active = false ∧ p.session.paused = false ∧ p.session.pausedAt = none
  paused_iff : p.session.paused = true ↔ p.session.pausedAt.isSome = true
  paused_active : p.session.paused = true → p.session.active = true
  started_iff : p.session.startedAt.isSome = true ↔ p.session.active = true ∨ p.phase = .complete
  idle : p.phase = .idle → p.session = { line := p.session.line }

theorem lifecycle_idle (line : Nat) (hs : p.session = { line := line }) (hr : p.result = none) :
    p.Lifecycle := by
  have hphase : p.phase = .idle := by rw [phase, hs]; rfl
  constructor <;> simp [hphase, hs, hr]

theorem lifecycle_active (hp : p.phase = .running ∨ p.phase = .paused) (hr : p.result = none)
    (hpaused : p.session.paused = true ↔ p.session.pausedAt.isSome = true)
    (hstart : p.session.startedAt.isSome = true) : p.Lifecycle := by
  obtain ⟨hend, hactive⟩ := active_of_phase hp
  constructor <;> rcases hp with hp | hp <;> simp_all

theorem lifecycle_complete (hend : p.session.endedAt.isSome = true) (hr : p.result.isSome = true)
    (hactive : p.session.active = false) (hpaused : p.session.paused = false)
    (hpause : p.session.pausedAt = none) (hstart : p.session.startedAt.isSome = true) :
    p.Lifecycle := by
  have hp : p.phase = .complete := Session.phase_eq_complete.2 hend
  constructor <;> simp [hp, hend, hr, hactive, hpaused, hpause, hstart]

theorem Lifecycle.started (hi : p.Lifecycle) (h : p.phase = .running ∨ p.phase = .paused) :
    p.session.startedAt.isSome = true :=
  hi.started_iff.2 (.inl (active_of_phase h).2)

theorem Lifecycle.result_eq_none (hi : p.Lifecycle) (h : p.phase ≠ .complete) :
    p.result = none := by
  cases hr : p.result with
  | none => rfl
  | some r => exact absurd (hi.ended_iff.1 (hi.result_iff.1 (by simp [hr]))) h

theorem Lifecycle.move (hs : p.Sound) (hi : p.Lifecycle) (h : Move p a q es cs) : q.Lifecycle := by
  cases h with
  | start k now _ h =>
      have hsession := hi.idle h
      refine lifecycle_active (.inl (hs.phase_start h now)) (hi.result_eq_none (by simp [h])) ?_ rfl
      rw [hsession]
      simp [Session.start]
  | hit k now _ l c h | miss k now _ l c h =>
      exact lifecycle_active (.inl h) (hi.result_eq_none (by simp [h])) hi.paused_iff
        (hi.started (.inl h))
  | pause now _ h =>
      exact lifecycle_active (.inr (phase_pause h now))
        (hi.result_eq_none (by simp [h])) (by simp [Session.pause]) (hi.started (.inl h))
  | resume now _ h =>
      exact lifecycle_active (.inl (phase_resume h now))
        (hi.result_eq_none (by simp [h])) (by simp [Session.closePause]) (hi.started (.inr h))
  | forget => exact { hi with }
  | nextLine now q hq h =>
      have hp := hq.running_or_paused
      have hr := hi.result_eq_none (by rcases hp with hp | hp <;> simp [hp])
      have hstart := hi.started hp
      cases hq <;> exact lifecycle_active hp hr hi.paused_iff hstart
  | finish now q hq h =>
      have hstart := hi.started hq.running_or_paused
      cases hq <;> exact lifecycle_complete rfl rfl rfl rfl rfl hstart
  | resetKey | reset | replace => exact lifecycle_idle _ rfl rfl
  | switchIdle preset now _ h =>
      obtain ⟨line, hline⟩ : ∃ line, p.session = { line := line } := ⟨_, hi.idle h⟩
      refine lifecycle_idle (Session.nextTypeable (p.switched preset).lines 0) ?_
        (hi.result_eq_none (by simp [h]))
      simp [switched, hline]
  | switch preset now _ h =>
      have hidle : p.phase ≠ .idle := by rcases h with h | ⟨h | h, -⟩ <;> simp [h]
      exact { hi with idle := fun hp => absurd hp hidle }

theorem run_lifecycle (hs : p.Sound) (hi : p.Lifecycle) (actions : List Action) :
    (p.run actions).practice.Lifecycle :=
  (run_preserves (P := Lifecycle) hs hi fun _ hs hi hm => hi.move hs hm).2

/-- The second practice has the result of the first, and the same record of the test. -/
structure SameTest (p q : Practice) : Prop where
  result : q.result = p.result
  typed : q.session.typed = p.session.typed
  errors : q.session.errors = p.session.errors
  completed : q.session.completed = p.session.completed
  startedAt : q.session.startedAt = p.session.startedAt
  endedAt : q.session.endedAt = p.session.endedAt
  pausedAt : q.session.pausedAt = p.session.pausedAt
  pausedTotal : q.session.pausedTotal = p.session.pausedTotal

theorem SameTest.refl (p : Practice) : p.SameTest p := ⟨rfl, rfl, rfl, rfl, rfl, rfl, rfl, rfl⟩

theorem SameTest.trans {r : Practice} (h : p.SameTest q) (h' : q.SameTest r) : p.SameTest r where
  result := h'.result.trans h.result
  typed := h'.typed.trans h.typed
  errors := h'.errors.trans h.errors
  completed := h'.completed.trans h.completed
  startedAt := h'.startedAt.trans h.startedAt
  endedAt := h'.endedAt.trans h.endedAt
  pausedAt := h'.pausedAt.trans h.pausedAt
  pausedTotal := h'.pausedTotal.trans h.pausedTotal

theorem startsOver_of_phase_eq (h : q.phase = p.phase) (a : Action) :
    q.startsOver a = p.startsOver a := by
  cases a <;> simp [startsOver, h]

theorem step_startsOver (h : p.startsOver a = true) : (p.step a).practice.phase = .idle := by
  cases a with
  | key k now =>
      have hk : k.classify p.session.phase = .reset := of_decide_eq_true h
      simp only [step, Reply.map, handleKey_eq, Session.handleKey, hk, follow, reset_eq]
      rfl
  | reset => simp only [step, reset_eq]; rfl
  | replaceSnippet => simp only [step, replaceSnippet_eq]; rfl
  | poll | completeLine | togglePause | setPreset => cases h

theorem Move.sameTest (hp : p.phase = .complete) (ha : p.startsOver a = false)
    (h : Move p a q es cs) : q.phase = .complete ∧ p.SameTest q := by
  cases h with
  | start k now _ h | hit k now _ l c h | miss k now _ l c h | pause now _ h | resume now _ h
  | switchIdle preset now _ h => exact nomatch hp.symm.trans h
  | nextLine now q hq | finish now q hq =>
      rcases hq.running_or_paused with h | h <;> exact nomatch hp.symm.trans h
  | forget | switch => exact ⟨hp, { SameTest.refl p with }⟩
  | resetKey k now hk h =>
      rw [hk] at ha
      simp [startsOver, h] at ha
  | reset ha' | replace _ _ ha' =>
      rw [ha'] at ha
      cases ha

theorem step_complete (hs : p.Sound) (hp : p.phase = .complete) (ha : p.startsOver a = false) :
    (p.step a).practice.phase = .complete ∧ p.SameTest (p.step a).practice := by
  refine (moves_step p hs a).preserves (P := fun q => q.phase = .complete ∧ p.SameTest q)
    (fun {q r _ _} h hm => ?_) ⟨hp, .refl p⟩
  have hq := (startsOver_of_phase_eq (h.1.trans hp.symm) a).trans ha
  exact ⟨(hm.sameTest h.1 hq).1, h.2.trans (hm.sameTest h.1 hq).2⟩

/-- After the end of a test a run either starts over at some point or keeps the test. -/
theorem run_complete (hs : p.Sound) (hp : p.phase = .complete) (actions : List Action) :
    (∃ earlier a later, actions = earlier ++ a :: later ∧
      (p.run earlier).practice.startsOver a = true) ∨
    (p.run actions).practice.phase = .complete ∧ p.SameTest (p.run actions).practice := by
  induction actions generalizing p with
  | nil => exact .inr ⟨hp, .refl p⟩
  | cons a rest ih =>
      cases ha : p.startsOver a with
      | true => exact .inl ⟨[], a, rest, rfl, ha⟩
      | false =>
          obtain ⟨hp', hsame⟩ := step_complete hs hp ha
          rcases ih (step_sound hs a) hp' with ⟨earlier, b, later, hrest, hb⟩ | ⟨hlast, hsame'⟩
          · exact .inl ⟨a :: earlier, b, later, by rw [hrest]; rfl, hb⟩
          · exact .inr ⟨hlast, hsame.trans hsame'⟩

/-- In every run flags, times and result go with the phase, and a finished test is kept until the
session starts over. -/
theorem lifecycle_run (source : Snippet) (info : SnippetInfo) (preset : Preset)
    (settleDelay : Duration) (recorder : Option Recorder) (actions : List Action) :
    let p := ((begin source info preset settleDelay recorder).run actions).practice
    p.Lifecycle ∧ (p.phase = .complete →
      (∀ a, p.startsOver a = true → (p.step a).practice.phase = .idle) ∧
      ∀ later, (∃ earlier a last, later = earlier ++ a :: last ∧
          (p.run earlier).practice.startsOver a = true) ∨
        (p.run later).practice.phase = .complete ∧ p.SameTest (p.run later).practice) := by
  intro p
  have hs := begin_sound source info preset settleDelay recorder
  have hi : p.Sound ∧ p.Lifecycle :=
    run_preserves (P := Lifecycle) hs (lifecycle_idle _ (begin_session ..) rfl)
      fun _ hs hi hm => hi.move hs hm
  exact ⟨hi.2, fun hp => ⟨fun a ha => step_startsOver ha, run_complete hi.1 hp⟩⟩

/-- A finished test that goes through keys, a pause key and a switch of the mode. -/
theorem lifecycle_run_finished :
    let p := ((begin (.ofWords ["a"]) {} .full 50 none).run
      [.key (.plain 'a') 10, .poll 60]).practice
    p.phase = .complete ∧ (p.step .reset).practice.phase = .idle ∧
      p.SameTest (p.run [.setPreset .minimal 70]).practice := by
  have h := (lifecycle_run (.ofWords ["a"]) {} .full 50 none
    [.key (.plain 'a') 10, .poll 60]).2 (by decide)
  refine ⟨by decide, h.1 .reset rfl, ?_⟩
  rcases h.2 [.setPreset .minimal 70] with ⟨earlier, a, last, heq, ha⟩ | ⟨-, hsame⟩
  · cases earlier with
    | nil =>
        obtain ⟨rfl, rfl⟩ := List.cons.inj heq
        exact nomatch ha
    | cons b earlier => simp at heq
  · exact hsame

end TypingTrainer.Practice
