import TypingTrainer.Proofs.Cursor
import TypingTrainer.Proofs.Recording

namespace TypingTrainer

open Session (nextTypeable isTypeable_nextTypeable)

namespace Practice

variable {p q : Practice} {a : Action} {es : List Event} {cs : List Call}

/-- There were as many right keys as the cursor is into its line, and unless the test is over the
line under it has something to type. -/
structure Engaged (p : Practice) : Prop where
  char_le : p.session.char ≤ p.session.typed
  typeable : p.phase ≠ .complete → ∀ l, p.current? = some l → l.isTypeable = true

theorem engaged_fresh (h : p.session = { line := nextTypeable p.lines 0 }) : p.Engaged := by
  constructor
  · exact Nat.le_of_eq (by rw [h])
  · intro _ l hl
    rw [current?, h] at hl
    exact isTypeable_nextTypeable hl

theorem Engaged.kept (hi : p.Engaged) (hchar : q.session.char ≤ q.session.typed)
    (hphase : p.phase ≠ .complete) (hcurrent : q.current? = p.current?) : q.Engaged := by
  refine ⟨hchar, fun _ l hl => hi.typeable hphase l ?_⟩
  rw [← hcurrent, hl]

theorem Engaged.move (hi : p.Engaged) (h : Move p a q es cs) : q.Engaged := by
  cases h with
  | start k now _ h | pause now _ h | resume now _ h | miss k now _ l c h =>
      exact hi.kept hi.char_le (by simp [h]) rfl
  | hit k now _ l c h => exact hi.kept (Nat.succ_le_succ hi.char_le) (by simp [h]) rfl
  | forget => exact { hi with }
  | nextLine now r hr =>
      exact ⟨Nat.zero_le _, fun _ l hl => isTypeable_nextTypeable hl⟩
  | finish now r hr =>
      have hcomplete : (r.conclude now).practice.phase = .complete :=
        Session.phase_eq_complete.2 rfl
      exact ⟨Nat.zero_le _, fun hp => absurd hcomplete hp⟩
  | resetKey | reset | replace => exact engaged_fresh rfl
  | switchIdle preset now _ h =>
      exact ⟨Nat.zero_le _, fun _ l hl => isTypeable_nextTypeable hl⟩
  | switch preset now _ h =>
      refine ⟨Nat.zero_le _, fun hp l hl => ?_⟩
      rcases h with h | ⟨-, ht⟩
      · exact absurd h hp
      · rwa [hl, Option.any_some] at ht

/-- The action is a switch of the mode that ends the test although no key was right: from the cursor
on it leaves nothing to type. -/
def Dismisses (p : Practice) (a : Action) : Prop :=
  ∃ preset now, a = .setPreset preset now ∧ (p.phase = .running ∨ p.phase = .paused) ∧
    p.session.typed = 0 ∧
    ∀ l ∈ (p.source.filter preset).lines.drop p.session.line, l.isTypeable = false

theorem Engaged.typed_pos (hi : p.Engaged) (h : p.phase = .running) (hd : p.lineDone = true) :
    1 ≤ p.session.typed := by
  obtain ⟨l, hl, hlen⟩ := (Option.any_eq_true _ _).1 hd
  have hpos := (Line.isTypeable_iff l).1 (hi.typeable (by simp [h]) l hl)
  have hle : l.typingLen ≤ p.session.char := by simpa using hlen
  have hchar := hi.char_le
  omega

theorem Turn.practised (hi : p.Engaged) (h : Turn p a q es cs) (hcs : cs ≠ []) :
    1 ≤ q.session.typed ∨ p.Dismisses a := by
  cases h with
  | still => exact absurd rfl hcs
  | move h =>
      cases h with
      | finish now r hr hend =>
          cases hr with
          | typedOut _ h hd => exact .inl (hi.typed_pos h hd)
          | emptied preset ha h hn =>
              by_cases hzero : p.session.typed = 0
              · refine .inr ⟨preset, now, ha, h, hzero, forall_drop_iff.2 ⟨fun l hl => ?_, ?_⟩⟩
                · have hcurrent : (p.switched preset).current? = some l := hl
                  rwa [hcurrent, Option.any_some] at hn
                · exact Session.length_le_nextTypeable_iff.1 hend
              · exact .inl (Nat.pos_of_ne_zero hzero)
      | _ => exact absurd rfl hcs

theorem step_practised (hs : p.Sound) (hi : p.Engaged) (hcs : (p.step a).calls ≠ []) :
    1 ≤ (p.step a).practice.session.typed ∨ p.Dismisses a := by
  rcases step_cases hs a with hturn | ⟨k, now, es, hopens⟩
  · exact hturn.practised hi hcs
  · rcases hopens.turn.practised (hi.move hopens.start) hcs with h | h
    · exact .inl h
    · -- a key does not switch the mode
      obtain ⟨preset, time, ha, -⟩ := h
      exact nomatch hopens.key.symm.trans ha

theorem Dismisses.step (hs : p.Sound) (h : p.Dismisses a) :
    (p.step a).practice.session.typed = 0 ∧
      ∃ r, (p.step a).practice.result = some r ∧ r.accuracy = 100 ∧
        (p.step a).calls = p.callsFor r := by
  obtain ⟨preset, now, rfl, hphase, hzero, hnone⟩ := h
  have haccuracy : Clock.accuracy p.session.stored.typed p.session.stored.errors = 100 := by
    refine if_pos ?_
    rw [Session.stored, hzero, Nat.zero_mod]
  simp only [Practice.step, Reply.map, setPreset_ends hs hphase hnone]
  exact ⟨hzero, _, rfl, haccuracy, rfl⟩

/-- In every run the recorder is called only for a test in which some key was right, or for one that
is dismissed by a switch of the mode. The latter is recorded with an accuracy of 100. -/
theorem practised_run (source : Snippet) (info : SnippetInfo) (preset : Preset)
    (settleDelay : Duration) (recorder : Recorder) (actions : List Action) (a : Action) :
    let p := ((begin source info preset settleDelay (some recorder)).run actions).practice
    let r := p.step a
    (r.calls ≠ [] → 1 ≤ r.practice.session.typed ∨ p.Dismisses a) ∧
    (p.Dismisses a → r.practice.session.typed = 0 ∧
      ∃ result, r.practice.result = some result ∧ result.accuracy = 100 ∧
        r.calls.map Call.record = (p.info.record? result).toList) := by
  intro p r
  have hs : (begin source info preset settleDelay (some recorder)).Sound :=
    begin_sound source info preset settleDelay (some recorder)
  have hp : p.Sound ∧ p.Engaged :=
    run_preserves hs (engaged_fresh (begin_session ..)) fun _ _ hi hm => hi.move hm
  have hrecorder : p.recorder = some recorder := run_recorder hs actions
  refine ⟨step_practised hp.1 hp.2, fun h => ?_⟩
  obtain ⟨hzero, result, hresult, haccuracy, hcalls⟩ := h.step hp.1
  refine ⟨hzero, result, hresult, haccuracy, ?_⟩
  rw [hcalls, map_record_callsFor hrecorder]

/-- A wrong key alone, and a right one before the switch to the mode that passes over the operator:
the one test is recorded as dismissed, the other for its key. -/
theorem practised_run_slip :
    let fresh := begin (.ofTokens [.ofText "=" "operator" [.operator] 0]) (.embedded .python) .full
      50 (some ⟨fun _ => true⟩)
    let slipped := (fresh.run [.key (.plain 'x') 5]).practice
    let typed := (fresh.run [.key (.plain 'x') 5, .key (.plain '=') 10]).practice
    slipped.Dismisses (.setPreset .minimal 20) ∧
      (∃ wpm, (slipped.step (.setPreset .minimal 20)).calls.map Call.record =
        [⟨"python-default", wpm, 100⟩]) ∧
      (typed.step (.setPreset .minimal 20)).calls ≠ [] ∧
      1 ≤ (typed.step (.setPreset .minimal 20)).practice.session.typed := by
  have hslipped : (((begin (.ofTokens [.ofText "=" "operator" [.operator] 0]) (.embedded .python)
      .full 50 (some ⟨fun _ => true⟩)).run [.key (.plain 'x') 5]).practice).Dismisses
      (.setPreset .minimal 20) :=
    ⟨.minimal, 20, rfl, .inl (by decide +kernel), by decide +kernel, by decide +kernel⟩
  obtain ⟨-, result, -, haccuracy, hcalls⟩ := (practised_run (.ofTokens
    [.ofText "=" "operator" [.operator] 0]) (.embedded .python) .full 50 ⟨fun _ => true⟩
    [.key (.plain 'x') 5] (.setPreset .minimal 20)).2 hslipped
  have htyped := (practised_run (.ofTokens [.ofText "=" "operator" [.operator] 0])
    (.embedded .python) .full 50 ⟨fun _ => true⟩ [.key (.plain 'x') 5, .key (.plain '=') 10]
    (.setPreset .minimal 20)).1
  refine ⟨hslipped, ⟨result.wpm, ?_⟩, by decide +kernel, ?_⟩
  · rw [hcalls, ← haccuracy]
    rfl
  · refine (htyped (by decide +kernel)).resolve_right ?_
    rintro ⟨_, _, _, _, hzero, _⟩
    exact absurd hzero (by decide +kernel)

/-- The wrong key alone is recorded. -/
theorem recorded_without_hit :
    ¬ ∀ (source : Snippet) (info : SnippetInfo) (preset : Preset) (settleDelay : Duration)
      (recorder : Recorder) (actions : List Action) (a : Action),
      (∀ b ∈ actions ++ [a], b.isCompletion = false) →
      let r := ((begin source info preset settleDelay (some recorder)).run actions).practice.step a
      r.calls ≠ [] → 1 ≤ r.practice.session.typed := by
  intro h
  have hpos := h (.ofTokens [.ofText "=" "operator" [.operator] 0]) (.embedded .python) .full 50
    ⟨fun _ => true⟩ [.key (.plain 'x') 5] (.setPreset .minimal 20) (by decide) (by decide +kernel)
  exact absurd hpos (by decide +kernel)

end Practice

end TypingTrainer
