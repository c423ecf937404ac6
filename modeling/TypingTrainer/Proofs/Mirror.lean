import TypingTrainer.Proofs.Moves

namespace TypingTrainer

open Session (nextTypeable)

def Completion.later (d : Nat) (c : Completion) : Completion :=
  { c with generation := c.generation + d }

namespace Practice

def Action.later (d : Nat) : Action → Action
  | .completeLine generation now => .completeLine (generation + d) now
  | a => a

def mirror (p : Practice) (d : Nat) (recorder : Option Recorder) : Practice :=
  { p with
    generation := p.generation + d
    pending := p.pending.map (Completion.later d)
    recorder := recorder }

/-- The second reply is that of the mirrored practice. Only what the recorder was called with may
depend on the recorder. -/
structure Mirrors {α : Type} (d : Nat) (recorder : Option Recorder) (r s : Reply α) : Prop where
  practice_eq : s.practice = r.practice.mirror d recorder
  answer_eq : s.answer = r.answer
  events_eq : s.events = r.events
  calls_eq : r.practice.recorder = recorder → s.calls = r.calls

variable {p q : Practice} {d : Nat} {recorder : Option Recorder} {α β : Type}
variable {a : Action} {es : List Event} {cs : List Call}

theorem Mirrors.map {r s : Reply α} (h : Mirrors d recorder r s) (f : α → β) :
    Mirrors d recorder (r.map f) (s.map f) where
  practice_eq := h.practice_eq
  answer_eq := congrArg f h.answer_eq
  events_eq := h.events_eq
  calls_eq := h.calls_eq

theorem Mirrors.answered {r s : Reply α} (h : Mirrors d recorder r s) (b : β) :
    Mirrors d recorder { r with answer := b } { s with answer := b } :=
  h.map fun _ => b

theorem mirrors_still (p : Practice) (d : Nat) (recorder : Option Recorder) (answer : α) :
    Mirrors d recorder { practice := p, answer := answer }
      { practice := p.mirror d recorder, answer := answer } :=
  ⟨rfl, rfl, rfl, fun _ => rfl⟩

theorem mirror_zero (p : Practice) (recorder : Option Recorder) :
    p.mirror 0 recorder = { p with recorder := recorder } := by
  have hpending : p.pending.map (Completion.later 0) = p.pending := by
    cases p.pending <;> rfl
  simp [mirror, hpending]

theorem Action.later_zero (a : Action) : a.later 0 = a := by
  cases a <;> rfl

theorem map_later_zero (actions : List Action) : actions.map (Action.later 0) = actions := by
  rw [funext Action.later_zero]
  exact List.map_id' actions

section Operations

variable (p d recorder)

@[simp] theorem mirror_generation : (p.mirror d recorder).generation = p.generation + d := rfl

@[simp] theorem mirror_session : (p.mirror d recorder).session = p.session := rfl

@[simp] theorem mirror_lines : (p.mirror d recorder).lines = p.lines := rfl

@[simp] theorem mirror_phase : (p.mirror d recorder).phase = p.phase := rfl

@[simp] theorem mirror_current? : (p.mirror d recorder).current? = p.current? := rfl

@[simp] theorem mirror_pending :
    (p.mirror d recorder).pending = p.pending.map (Completion.later d) := rfl

theorem reset_mirror : (p.mirror d recorder).reset = p.reset.mirror d recorder := by
  simp [reset, mirror, Nat.add_right_comm]

theorem switched_mirror (preset : Preset) :
    (p.mirror d recorder).switched preset = (p.switched preset).mirror d recorder := by
  simp [switched, mirror, Nat.add_right_comm]

theorem mirrors_follow (r : Session.Reply Outcome) (now : Instant) :
    Mirrors d recorder (p.follow r now) ((p.mirror d recorder).follow r now) := by
  refine ⟨?_, rfl, rfl, fun _ => rfl⟩
  cases hr : r.answer with
  | ignored | handled | lineFinished => simp [follow, hr, mirror, Completion.later]
  | resetRequested => simp [follow, hr, mirror, reset, Nat.add_right_comm]

theorem mirrors_finish (now : Instant) :
    Mirrors d recorder (p.finish now) ((p.mirror d recorder).finish now) := by
  refine ⟨rfl, rfl, rfl, ?_⟩
  intro h
  have hsame : p.recorder = recorder := h
  rw [← hsame]
  rfl

theorem mirrors_advance (now : Instant) :
    Mirrors d recorder (p.advance now) ((p.mirror d recorder).advance now) := by
  rw [advance, advance, mirror_lines, mirror_session]
  dsimp only
  split
  · exact ⟨rfl, rfl, rfl, fun _ => rfl⟩
  · obtain ⟨hpractice, -, -, hcalls⟩ := mirrors_finish
      { p with session := (p.session.advanceLine p.lines now).session } d recorder now
    exact ⟨hpractice, rfl, rfl, hcalls⟩

theorem mirrors_completeLine (generation : Nat) (now : Instant) :
    Mirrors d recorder (p.completeLine generation now)
      ((p.mirror d recorder).completeLine (generation + d) now) := by
  by_cases hg : generation = p.generation
  · rw [hg, ← mirror_generation p d recorder]
    by_cases hd : p.phase = .running ∧ p.lineDone = true
    · rw [completeLine_done hd.1 hd.2, completeLine_done (p := p.mirror d recorder) hd.1 hd.2]
      exact (mirrors_advance p.settled d recorder now).answered true
    · rw [completeLine_refused hd, completeLine_refused (p := p.mirror d recorder) hd]
      exact mirrors_still p.settled d recorder false
  · have hstale : generation + d ≠ (p.mirror d recorder).generation := by simpa using hg
    rw [completeLine_stale hg, completeLine_stale hstale]
    exact mirrors_still p d recorder false

theorem mirrors_poll (now : Instant) :
    Mirrors d recorder (p.poll now) ((p.mirror d recorder).poll now) := by
  cases hp : p.pending with
  | none =>
      have hpending : (p.mirror d recorder).pending = none := by simp [hp]
      rw [poll, poll, hp, hpending]
      exact mirrors_still p d recorder false
  | some c =>
      have hpending : (p.mirror d recorder).pending = some (c.later d) := by simp [hp]
      have hdue : (c.later d).due = c.due := rfl
      rw [poll, poll, hp, hpending, mirror_session]
      dsimp only
      rw [hdue]
      split
      · exact mirrors_completeLine p d recorder c.generation now
      · exact mirrors_still p d recorder false

theorem mirrors_setPreset (preset : Preset) (now : Instant) :
    Mirrors d recorder (p.setPreset preset now) ((p.mirror d recorder).setPreset preset now) := by
  rw [setPreset_eq, setPreset_eq, mirror_phase, switched_mirror]
  cases p.phase with
  | idle => exact ⟨rfl, rfl, rfl, fun _ => rfl⟩
  | complete => exact mirrors_still (p.switched preset) d recorder ()
  | running | paused =>
      dsimp only
      rw [mirror_current?]
      split
      · exact mirrors_still (p.switched preset) d recorder ()
      · exact mirrors_advance (p.switched preset) d recorder now

theorem mirrors_step (a : Action) :
    Mirrors d recorder (p.step a) ((p.mirror d recorder).step (a.later d)) := by
  cases a with
  | key k now =>
      exact (mirrors_follow p d recorder (p.session.handleKey p.lines k now) now).map Answer.outcome
  | poll now => exact (mirrors_poll p d recorder now).map Answer.advanced
  | completeLine generation now =>
      exact (mirrors_completeLine p d recorder generation now).map Answer.advanced
  | togglePause now => exact ⟨rfl, rfl, rfl, fun _ => rfl⟩
  | reset => exact ⟨reset_mirror p d recorder, rfl, rfl, fun _ => rfl⟩
  | setPreset preset now =>
      exact (mirrors_setPreset p d recorder preset now).map fun _ => Answer.done
  | replaceSnippet source info =>
      exact ⟨reset_mirror { p with source, info, lines := (source.filter p.preset).lines } d
        recorder, rfl, rfl, fun _ => rfl⟩

end Operations

theorem Leaves.recorder_eq {now : Instant} (h : p.Leaves a now q) : q.recorder = p.recorder := by
  cases h <;> rfl

theorem Move.recorder_eq (h : Move p a q es cs) : q.recorder = p.recorder := by
  cases h with
  | nextLine now q hq | finish now q hq => exact hq.recorder_eq
  | _ => rfl

theorem run_recorder (hs : p.Sound) (actions : List Action) :
    (p.run actions).practice.recorder = p.recorder :=
  (run_preserves (P := fun q => q.recorder = p.recorder) hs rfl
    fun _ _ hq hm => hm.recorder_eq.trans hq).2

/-- The mirrored practice goes through the same run. -/
theorem mirrors_run (hs : p.Sound) (d : Nat) (recorder : Option Recorder)
    (actions : List Action) :
    Mirrors d recorder (p.run actions)
      ((p.mirror d recorder).run (actions.map (Action.later d))) := by
  induction actions generalizing p with
  | nil => exact mirrors_still p d recorder []
  | cons a rest ih =>
      have hfirst := mirrors_step p d recorder a
      have hmore := ih (step_sound hs a)
      rw [← hfirst.practice_eq] at hmore
      have hkept : (p.run (a :: rest)).practice.recorder = (p.step a).practice.recorder :=
        run_recorder (step_sound hs a) rest
      refine ⟨hmore.practice_eq, ?_, ?_, ?_⟩
      · simp only [List.map_cons, run, hfirst.answer_eq, hmore.answer_eq]
      · simp only [List.map_cons, run, hfirst.events_eq, hmore.events_eq]
      · intro h
        simp only [List.map_cons, run, hfirst.calls_eq (hkept.symm.trans h), hmore.calls_eq h]

end Practice

end TypingTrainer
