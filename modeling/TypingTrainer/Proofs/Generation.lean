import TypingTrainer.Proofs.Moves

namespace TypingTrainer

namespace Session

theorem typeChar_answer_ne_reset (s : Session) (lines : List Line) (c : Char) :
    (s.typeChar lines c).answer ≠ .resetRequested := by
  rcases s.typeChar_cases lines c with ⟨-, heq⟩ | ⟨l, e, -, -, heq⟩
  · simp [heq]
  · rw [heq]
    split
    · dsimp only
      split <;> simp
    · simp

theorem handleKey_answer_eq_reset_iff (s : Session) (lines : List Line) (k : Key) (now : Instant) :
    (s.handleKey lines k now).answer = .resetRequested ↔ k.classify s.phase = .reset := by
  rw [handleKey]
  cases hk : k.classify s.phase with
  | ignore | reset | togglePause => simp
  | type c =>
      dsimp only
      split
      · simpa using typeChar_answer_ne_reset (s.start now) lines c
      · simpa using typeChar_answer_ne_reset s lines c

end Session

namespace Practice

variable {p : Practice}

/-- Whether an action begins a new generation: it starts the session over or switches the mode. -/
def renews (p : Practice) : Action → Bool
  | .setPreset _ _ => true
  | a => p.startsOver a

theorem follow_generation (p : Practice) (r : Session.Reply Outcome) (now : Instant) :
    (p.follow r now).practice.generation =
      if r.answer = .resetRequested then p.generation + 1 else p.generation := by
  cases hr : r.answer <;> simp [follow, hr, reset]

theorem handleKey_generation (p : Practice) (k : Key) (now : Instant) :
    (p.handleKey k now).practice.generation =
      if k.classify p.phase = .reset then p.generation + 1 else p.generation := by
  rw [handleKey_eq, follow_generation]
  simp only [Session.handleKey_answer_eq_reset_iff]
  rfl

theorem advance_generation (p : Practice) (now : Instant) :
    (p.advance now).practice.generation = p.generation := by
  rw [advance]
  dsimp only
  split <;> rfl

theorem completeLine_generation (p : Practice) (generation : Nat) (now : Instant) :
    (p.completeLine generation now).practice.generation = p.generation := by
  by_cases hg : generation = p.generation
  · subst hg
    by_cases hd : p.phase = .running ∧ p.lineDone = true
    · rw [completeLine_done hd.1 hd.2]
      exact advance_generation p.settled now
    · rw [completeLine_refused hd]
      rfl
  · rw [completeLine_stale hg]

theorem poll_generation (p : Practice) (now : Instant) :
    (p.poll now).practice.generation = p.generation := by
  cases hc : p.pending with
  | none => simp [poll, hc]
  | some c =>
      by_cases hdue : c.due ≤ now ∧ p.session.paused = false
      · simpa [poll, hc, hdue] using completeLine_generation p c.generation now
      · simp [poll, hc, hdue]

theorem setPreset_generation (p : Practice) (preset : Preset) (now : Instant) :
    (p.setPreset preset now).practice.generation = p.generation + 1 := by
  rw [setPreset_eq]
  cases p.phase with
  | idle | complete => rfl
  | running | paused =>
      dsimp only
      split
      · rfl
      · exact advance_generation (p.switched preset) now

theorem step_generation (p : Practice) (a : Action) :
    (p.step a).practice.generation =
      if p.renews a = true then p.generation + 1 else p.generation := by
  cases a with
  | key k now =>
      simp only [renews, startsOver, beq_iff_eq]
      exact handleKey_generation p k now
  | poll now => exact poll_generation p now
  | completeLine generation now => exact completeLine_generation p generation now
  | togglePause | reset | replaceSnippet => rfl
  | setPreset preset now => exact setPreset_generation p preset now

theorem generation_le_run (p : Practice) (actions : List Action) :
    p.generation ≤ (p.run actions).practice.generation := by
  induction actions generalizing p with
  | nil => exact Nat.le_refl _
  | cons a rest ih =>
      have hstep : p.generation ≤ (p.step a).practice.generation := by
        rw [step_generation]
        split <;> omega
      exact Nat.le_trans hstep (ih (p.step a).practice)

theorem generation_lt_run {earlier : List Action} {a : Action}
    (h : (p.run earlier).practice.renews a = true) (later : List Action) :
    p.generation < (p.run (earlier ++ a :: later)).practice.generation := by
  have hstep := step_generation (p.run earlier).practice a
  rw [if_pos h] at hstep
  have hbefore := generation_le_run p earlier
  have hafter := generation_le_run ((p.run earlier).practice.step a).practice later
  rw [run_append]
  change p.generation < (((p.run earlier).practice.step a).practice.run later).practice.generation
  omega

/-- A generation that the practice `(p.run before).practice` has or had is that of some `p` on the
way. Once a run from there has begun a new generation, a completion of the old one does nothing,
whatever the session looks like by then. Generations grow by one where they are renewed, and nowhere
else. -/
theorem stale_completion_refused (p : Practice) :
    (∀ a, (p.step a).practice.generation =
      if p.renews a = true then p.generation + 1 else p.generation) ∧
    ∀ before earlier a later now,
      (((p.run before).practice.run earlier).practice.renews a = true) →
      let q := ((p.run before).practice.run (earlier ++ a :: later)).practice
      p.generation < q.generation ∧
        q.completeLine p.generation now = { practice := q, answer := false } := by
  refine ⟨step_generation p, fun before earlier a later now h => ?_⟩
  have hlt : p.generation <
      ((p.run before).practice.run (earlier ++ a :: later)).practice.generation :=
    Nat.lt_of_le_of_lt (generation_le_run p before) (generation_lt_run h later)
  exact ⟨hlt, completeLine_stale (Nat.ne_of_lt hlt) now⟩

/-- The same line typed out again after a reset: the completion of the first time is refused, that
of the second time runs. -/
theorem stale_completion_refused_retyped :
    let p := begin (.ofWords ["ab", "c"]) {} .full 50 none
    let typed := (p.run [.key (.plain 'a') 10, .key (.plain 'b') 20]).practice
    let q := (typed.run [.reset, .key (.plain 'a') 30, .key (.plain 'b') 40]).practice
    q.completeLine p.generation 100 = { practice := q, answer := false } ∧
      (q.completeLine q.generation 100).answer = true :=
  ⟨((stale_completion_refused (begin (.ofWords ["ab", "c"]) {} .full 50 none)).2
    [.key (.plain 'a') 10, .key (.plain 'b') 20] [] .reset
    [.key (.plain 'a') 30, .key (.plain 'b') 40] 100 rfl).2, by decide⟩

end Practice

end TypingTrainer
