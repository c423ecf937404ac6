import TypingTrainer.Proofs.Completed
import TypingTrainer.Proofs.Pending

namespace TypingTrainer.Practice

open Session (nextTypeable nextTypeable_le_length nextTypeable_of_length_le)

variable {p q : Practice} {a : Action} {es : List Event} {cs : List Call} {now : Instant}

def Lineless (p : Practice) : Prop :=
  (p.phase = .running ∨ p.phase = .paused) ∧ p.current? = none

/-- What a move does to the cursor: it stands on a line or right behind the lines, it stays, or the
move ends a test without a current line and takes the cursor one further. -/
inductive Steers (p : Practice) (a : Action) (q : Practice) : Prop
  | inside (h : q.session.line ≤ q.lines.length)
  | stays (hline : q.session.line = p.session.line) (hlength : q.lines.length = p.lines.length)
      (hphase : p.phase = .complete → q.phase = .complete)
  | overruns (preset : Preset) (now : Instant) (ha : a = .setPreset preset now)
      (hlineless : p.Lineless) (hlength : q.lines.length = p.lines.length)
      (hline : q.session.line = p.session.line + 1) (hphase : q.phase = .complete)

theorem line_renewed_le (p : Practice) : p.renewed.session.line ≤ p.renewed.lines.length :=
  nextTypeable_le_length (Nat.zero_le _)

theorem Leaves.steers (hi : p.Scheduled) (h : p.Leaves a now q) :
    p.Steers a (q.conclude now).practice := by
  have hphase : (q.conclude now).practice.phase = .complete := Session.phase_eq_complete.2 rfl
  have hline : (q.conclude now).practice.session.line = nextTypeable q.lines (q.session.line + 1) :=
    rfl
  have hlines : (q.conclude now).practice.lines = q.lines := rfl
  by_cases hlt : q.session.line < q.lines.length
  · apply Steers.inside
    rw [hline, hlines]
    exact nextTypeable_le_length hlt
  · have hpast : nextTypeable q.lines (q.session.line + 1) = q.session.line + 1 :=
      nextTypeable_of_length_le (by omega)
    cases h with
    | typedOut hc hr hd =>
        obtain ⟨l, hl, -⟩ := (Option.any_eq_true _ _).1 hd
        exact absurd (List.getElem?_eq_some_iff.1 hl).1 hlt
    | emptied preset ha hr hn =>
        have hlength := length_switched hi.lines_eq preset
        refine .overruns preset now ha ⟨hr, List.getElem?_eq_none ?_⟩ hlength ?_ hphase
        · rw [← hlength]
          exact Nat.not_lt.1 hlt
        · rw [hline, hpast]
          rfl

theorem Move.steers (hi : p.Scheduled) (h : Move p a q es cs) : p.Steers a q := by
  cases h with
  | start k now _ h =>
      refine .stays rfl rfl fun hp => ?_
      cases hp.symm.trans h
  | pause now _ h | resume now _ h =>
      refine .stays rfl rfl fun hp => ?_
      cases hp.symm.trans h
  | hit | miss | forget => exact .stays rfl rfl id
  | nextLine now q hq h => exact .inside (Nat.le_of_lt h)
  | finish now q hq h => exact hq.steers hi
  | resetKey | reset => exact .inside (line_renewed_le p)
  | replace source info =>
      exact .inside
        (line_renewed_le { p with source, info, lines := (source.filter p.preset).lines })
  | switchIdle preset now _ h => exact .inside (nextTypeable_le_length (Nat.zero_le _))
  | switch preset now => exact .stays rfl (length_switched hi.lines_eq preset) id

def Near (p : Practice) : Prop :=
  p.session.line ≤ p.lines.length ∨
    p.phase = .complete ∧ p.session.line = p.lines.length + 1

theorem Near.steers (hn : p.Near) (h : p.Steers a q) : q.Near := by
  cases h with
  | inside h => exact .inl h
  | stays hline hlength hphase =>
      rw [Near, hline, hlength]
      exact hn.imp_right fun h => ⟨hphase h.1, h.2⟩
  | overruns preset now _ hlineless hlength hline hphase =>
      obtain ⟨hactive, hnone⟩ := hlineless
      have hle : p.session.line ≤ p.lines.length := by
        refine hn.resolve_right fun h => ?_
        rcases hactive with hp | hp <;> cases h.1.symm.trans hp
      have hge : p.lines.length ≤ p.session.line := List.getElem?_eq_none_iff.1 hnone
      exact .inr ⟨hphase, by omega⟩

theorem run_near (hs : p.Sound) (hi : p.Scheduled) (hn : p.Near) (actions : List Action) :
    (p.run actions).practice.Near :=
  (run_preserves (P := fun q => q.Scheduled ∧ q.Near) hs ⟨hi, hn⟩
    fun _ _ h hm => ⟨h.1.move hm, h.2.steers (hm.steers h.1)⟩).2.2

theorem Steers.lineless (h : p.Steers a q) (hp : p.session.line ≤ p.lines.length)
    (hq : ¬ q.session.line ≤ q.lines.length) :
    ∃ preset now, a = .setPreset preset now ∧ p.Lineless := by
  cases h with
  | inside h => exact absurd h hq
  | stays hline hlength => omega
  | overruns preset now ha hlineless => exact ⟨preset, now, ha, hlineless⟩

theorem step_lineless (hs : p.Sound) (hi : p.Scheduled) (hp : p.session.line ≤ p.lines.length)
    (hq : ¬ (p.step a).practice.session.line ≤ (p.step a).practice.lines.length) :
    ∃ preset now, a = .setPreset preset now ∧ p.Lineless := by
  by_cases hswitch : ∃ preset now, a = .setPreset preset now
  · obtain ⟨preset, now, rfl⟩ := hswitch
    exact ((move_setPreset hs preset now).steers hi).lineless hp hq
  · refine absurd ?_ hq
    refine (step_preserves (P := fun q => q.Scheduled ∧ q.session.line ≤ q.lines.length) hs ⟨hi, hp⟩
      fun _ h hm => ⟨h.1.move hm, ?_⟩).2.2
    refine Decidable.byContradiction fun hpast => ?_
    obtain ⟨preset, now, ha, -⟩ := (hm.steers h.1).lineless h.2 hpast
    exact hswitch ⟨preset, now, ha⟩

/-- In every run the cursor stands on a line or right behind the lines, and every completed index is
that of a line, unless the mode was switched during a test without a current line: the test that
this ended is then still the present one, and the cursor is one further. -/
theorem bounds_run (source : Snippet) (info : SnippetInfo) (preset : Preset)
    (settleDelay : Duration) (recorder : Option Recorder) (actions : List Action) :
    let fresh := begin source info preset settleDelay recorder
    let p := (fresh.run actions).practice
    (p.session.line ≤ p.lines.length ∧ ∀ i ∈ p.session.completed, i < p.lines.length) ∨
    ∃ earlier preset now later, actions = earlier ++ .setPreset preset now :: later ∧
      let before := (fresh.run earlier).practice
      ((before.phase = .running ∨ before.phase = .paused) ∧ before.current? = none) ∧
      ∀ n, let q := ((before.step (.setPreset preset now)).practice.run (later.take n)).practice
        q.phase = .complete ∧ q.session.line = q.lines.length + 1 := by
  intro fresh p
  have hs : fresh.Sound := begin_sound source info preset settleDelay recorder
  have hi : fresh.Scheduled := scheduled_none rfl rfl
  have hfirst : fresh.session.line ≤ fresh.lines.length := by
    have hline : fresh.session.line = nextTypeable fresh.lines 0 :=
      congrArg Session.line (begin_session ..)
    rw [hline]
    exact nextTypeable_le_length (Nat.zero_le _)
  have hnear (actions : List Action) : (fresh.run actions).practice.Near :=
    run_near hs hi (.inl hfirst) actions
  by_cases hp : p.session.line ≤ p.lines.length
  · left
    refine ⟨hp, fun i hmem => ?_⟩
    have hspans : p.Spans (fresh.startLine actions) :=
      tracks_spans.run hs (spans_fresh (not_mem_completed_begin _ _ _ _ _)) actions
    exact Nat.lt_of_lt_of_le ((hspans.mem_iff i).1 hmem).2 hp
  · right
    rcases holds_since (Q := fun q => ¬ q.session.line ≤ q.lines.length) hp with hall | hsince
    · exact absurd hfirst (hall 0)
    · obtain ⟨earlier, a, later, heq, hbefore, hstays⟩ := hsince
      obtain ⟨preset, now, rfl, hlineless⟩ := step_lineless (run_sound hs earlier)
        (run_scheduled hs hi earlier) (Decidable.not_not.1 hbefore) (hstays 0)
      refine ⟨earlier, preset, now, later, heq, hlineless, fun n => ?_⟩
      have hlast := hnear (earlier ++ .setPreset preset now :: later.take n)
      rw [run_append] at hlast
      exact hlast.resolve_left (hstays n)

/-- A wrong key starts a test with nothing to type, and the switch of the mode marks a line that
does not exist. -/
theorem bounds_blank :
    ¬ ∀ (source : Snippet) (info : SnippetInfo) (preset : Preset) (settleDelay : Duration)
      (recorder : Option Recorder) (actions : List Action),
      (∀ a ∈ actions, a.isCompletion = false) →
      let p := ((begin source info preset settleDelay recorder).run actions).practice
      p.session.line ≤ p.lines.length ∧ ∀ i ∈ p.session.completed, i < p.lines.length := by
  intro h
  have hbounds := h (.ofWords [""]) {} .full 50 none
    [.key (.plain 'a') 10, .setPreset .minimal 20] (by decide)
  have hmem : 1 ∈ ((begin (.ofWords [""]) {} .full 50 none).run
      [.key (.plain 'a') 10, .setPreset .minimal 20]).practice.session.completed.toList := by
    decide +kernel
  exact absurd (hbounds.2 1 hmem) (by decide +kernel)

end TypingTrainer.Practice
