import TypingTrainer.Proofs.Completed
import TypingTrainer.Proofs.Lifecycle
import Mathlib.Algebra.Ring.Nat

namespace TypingTrainer

open Session (nextTypeable nextTypeable_eq nextTypeable_le_length passed isTypeable_of_mem_passed
  take_nextTypeable)

variable {lines : List Line} {i : Nat} {l : Line}

def lengthBefore (lines : List Line) (i : Nat) : Nat := ((lines.take i).map Line.typingLen).sum

theorem lengthBefore_succ (h : lines[i]? = some l) :
    lengthBefore lines (i + 1) = lengthBefore lines i + l.typingLen := by
  rw [lengthBefore, List.take_add_one, h]
  simp [lengthBefore]

theorem lengthBefore_nextTypeable (lines : List Line) (i : Nat) :
    lengthBefore lines (nextTypeable lines i) = lengthBefore lines i := by
  have hzero : ((passed lines i).map Line.typingLen).sum = 0 := by
    apply List.sum_eq_zero_iff_forall_eq_nat.2
    intro n hn
    obtain ⟨l, hl, rfl⟩ := List.mem_map.1 hn
    have hnone := (l.isTypeable_eq_false_iff).1 (isTypeable_of_mem_passed hl)
    simp [Line.typingLen, hnone]
  rw [lengthBefore, take_nextTypeable, List.map_append, List.sum_append, hzero, Nat.add_zero,
    lengthBefore]

theorem lengthBefore_length (lines : List Line) :
    lengthBefore lines lines.length = (lines.map Line.typingLen).sum := by
  rw [lengthBefore, List.take_length]

namespace Practice

variable {p q : Practice} {a : Action} {es : List Event} {cs : List Call} {now : Instant}

def seeSwitch : Observer Bool :=
  fun _ a q _ switched => if q.phase = .idle then false else switched || a.isSwitch

/-- Whether the mode was switched since the present test started. -/
def switchedInTest (p : Practice) (actions : List Action) : Bool :=
  p.observe seeSwitch false actions

/-- The lines from the first one with something to type up to the cursor are completed, and what was
typed right is all there is to type before the cursor. -/
structure Balanced (p : Practice) : Prop where
  spans : p.Spans (p.lines.findIdx Line.isTypeable)
  typed_eq : p.session.typed = lengthBefore p.lines p.session.line + p.session.char
  char_le : ∀ l, p.current? = some l → p.session.char ≤ l.typingLen
  complete : p.phase = .complete → p.session.line = p.lines.length ∧ p.session.char = 0

theorem balanced_fresh (h : p.session = { line := nextTypeable p.lines 0 }) : p.Balanced := by
  have hline : p.session.line = nextTypeable p.lines 0 := by rw [h]
  have hfirst : p.session.line = p.lines.findIdx Line.isTypeable := by
    rw [hline, nextTypeable_eq, List.drop_zero, Nat.zero_add]
  have hchar : p.session.char = 0 := by rw [h]
  constructor
  · rw [← hfirst]
    apply spans_fresh
    rw [h]
    exact SortedSet.not_mem_empty
  · rw [hline, lengthBefore_nextTypeable, hchar, h]
    rfl
  · intro l _
    rw [hchar]
    exact Nat.zero_le _
  · intro hp
    have hidle : p.phase = .idle := by
      rw [phase, h]
      rfl
    cases hidle.symm.trans hp

theorem Balanced.kept (hi : p.Balanced) (hphase : q.phase = p.phase ∨ q.phase ≠ .complete)
    (hspans : q.Spans (p.lines.findIdx Line.isTypeable)) (hlines : q.lines = p.lines)
    (hline : q.session.line = p.session.line) (hchar : q.session.char = p.session.char)
    (htyped : q.session.typed = p.session.typed) : q.Balanced := by
  constructor
  · rw [hlines]
    exact hspans
  · rw [htyped, hlines, hline, hchar]
    exact hi.typed_eq
  · intro l hl
    rw [hchar]
    apply hi.char_le
    rw [current?, Session.current?, ← hline, ← hlines]
    exact hl
  · intro hq
    have hp : p.phase = .complete := (hphase.resolve_right (not_not_intro hq)).symm.trans hq
    rw [hlines, hline, hchar]
    exact hi.complete hp

theorem Balanced.hit (hi : p.Balanced) {l : Line} {c : Char} (h : p.phase = .running)
    (hspans : (p.hit l now).Spans (p.lines.findIdx Line.isTypeable)) (hl : p.current? = some l)
    (hc : l.expected? p.session.char = some c) : (p.hit l now).Balanced := by
  have hlt : p.session.char < l.typingLen := (l.expected?_isSome_iff _).1 (by simp [hc])
  have htyped := hi.typed_eq
  refine ⟨hspans, ?_, ?_, fun hq => nomatch hq.symm.trans h⟩
  · change p.session.typed + 1 = lengthBefore p.lines p.session.line + (p.session.char + 1)
    omega
  · intro m hm
    obtain rfl : l = m := Option.some.inj (hl.symm.trans hm)
    exact hlt

theorem Balanced.moveOn (hi : p.Balanced) (hd : p.lineDone = true)
    (hspans : q.Spans (p.lines.findIdx Line.isTypeable)) (hlines : q.lines = p.lines)
    (hline : q.session.line = nextTypeable p.lines (p.session.line + 1))
    (hchar : q.session.char = 0) (htyped : q.session.typed = p.session.typed)
    (hend : q.phase = .complete → p.lines.length ≤ q.session.line) : q.Balanced := by
  obtain ⟨l, hl, hlen⟩ := (Option.any_eq_true _ _).1 hd
  have hle : l.typingLen ≤ p.session.char := by simpa using hlen
  have hge := hi.char_le l hl
  have hbefore := hi.typed_eq
  have hsucc := lengthBefore_succ hl
  have hnext := lengthBefore_nextTypeable p.lines (p.session.line + 1)
  have hcursor : p.session.line < p.lines.length := (List.getElem?_eq_some_iff.1 hl).1
  refine ⟨hlines ▸ hspans, ?_, ?_, ?_⟩
  · rw [htyped, hlines, hline, hchar, hnext, hsucc]
    omega
  · intro m _
    rw [hchar]
    exact Nat.zero_le _
  · intro hq
    have hlast : nextTypeable p.lines (p.session.line + 1) ≤ p.lines.length :=
      nextTypeable_le_length hcursor
    have hbehind := hend hq
    rw [hlines]
    exact ⟨by omega, hchar⟩

theorem Leaves.typedOut_of (h : p.Leaves a now q) (ha : a.isSwitch = false) :
    q = p.settled ∧ p.lineDone = true := by
  cases h with
  | typedOut _ _ hd => exact ⟨rfl, hd⟩
  | emptied preset hset =>
      subst hset
      cases ha

theorem Balanced.move (hs : p.Sound) (hi : p.Balanced) (h : Move p a q es cs)
    (ha : a.isSwitch = false) (hq : q.phase ≠ .idle) : q.Balanced := by
  have hspans := hi.spans.move hs h
  rw [seeStart, if_neg hq] at hspans
  cases h with
  | start k now _ h =>
      have hrunning : (p.started now).phase = .running := hs.phase_start h now
      refine hi.kept (.inr ?_) hspans rfl rfl rfl rfl
      intro hc
      cases hc.symm.trans hrunning
  | hit k now _ l c h hl hc => exact hi.hit h hspans hl hc
  | miss | forget => exact hi.kept (.inl rfl) hspans rfl rfl rfl rfl
  | pause now _ h =>
      refine hi.kept (.inr ?_) hspans rfl rfl rfl rfl
      intro hc
      cases hc.symm.trans (phase_pause h now)
  | resume now _ h =>
      refine hi.kept (.inr ?_) hspans rfl rfl rfl rfl
      intro hc
      cases hc.symm.trans (phase_resume h now)
  | nextLine now r hr h =>
      have hphase := hr.running_or_paused
      obtain ⟨rfl, hd⟩ := hr.typedOut_of ha
      refine hi.moveOn hd hspans rfl rfl rfl rfl ?_
      intro hc
      rcases hphase with hp | hp <;> cases hc.symm.trans hp
  | finish now r hr h =>
      obtain ⟨rfl, hd⟩ := hr.typedOut_of ha
      exact hi.moveOn hd hspans rfl rfl rfl rfl fun _ => h
  | resetKey | reset | replace => exact absurd rfl hq
  | switchIdle _ _ hset | switch _ _ hset =>
      subst hset
      cases ha

theorem Lifecycle.balanced_idle (hl : p.Lifecycle) (hi : p.phase = .idle → p.Balanced)
    (hs : p.Sound) (h : Move p a q es cs) (hq : q.phase = .idle) : q.Balanced := by
  cases h with
  | resetKey | reset | replace => exact balanced_fresh rfl
  | switchIdle preset now _ h =>
      apply balanced_fresh
      obtain ⟨line, hline⟩ : ∃ line, p.session = { line := line } := ⟨_, hl.idle h⟩
      simp [switched, hline]
  | forget =>
      have hp : p.Balanced := hi hq
      exact hp.kept (.inl rfl) { hp.spans with } rfl rfl rfl rfl
  | start k now _ h => cases hq.symm.trans (hs.phase_start h now)
  | pause now _ h => cases hq.symm.trans (phase_pause h now)
  | resume now _ h => cases hq.symm.trans (phase_resume h now)
  | hit k now _ l c h | miss k now _ l c h => cases hq.symm.trans h
  | nextLine now r hr => exact absurd hq hr.not_idle
  | finish now r hr =>
      have hc : (r.conclude now).practice.phase = .complete := Session.phase_eq_complete.2 rfl
      cases hq.symm.trans hc
  | switch preset now _ h =>
      have hp : p.phase = .idle := hq
      rcases h with h | ⟨h | h, -⟩ <;> cases hp.symm.trans h

theorem tracks_balanced :
    Tracks seeSwitch fun p switched =>
      p.Lifecycle ∧ (p.phase = .idle ∨ switched = false → p.Balanced) where
  still := by
    intro p a switched hi _ hswitch
    refine ⟨hi.1, fun h => hi.2 ?_⟩
    by_cases hp : p.phase = .idle
    · exact .inl hp
    · simpa [seeSwitch, hp, hswitch] using h
  move := by
    intro p a q es cs switched hs hi h
    refine ⟨hi.1.move hs h, fun hq => ?_⟩
    by_cases hidle : q.phase = .idle
    · exact hi.1.balanced_idle (fun hp => hi.2 (.inl hp)) hs h hidle
    · have hnone : switched = false ∧ a.isSwitch = false := by
        simpa [seeSwitch, hidle] using hq
      exact (hi.2 (.inr hnone.1)).move hs h hnone.2 hidle
  start _ _ hrunning := by simp [seeSwitch, hrunning, Action.isSwitch]

/-- As long as the mode is not switched during the test, the completed lines are those from the
first one with something to type up to the cursor, and the characters typed right are those of the
lines before the cursor and those before it in its line. A test that ends has typed all there is. -/
theorem typed_run (source : Snippet) (info : SnippetInfo) (preset : Preset)
    (settleDelay : Duration) (recorder : Option Recorder) (actions : List Action) :
    let fresh := begin source info preset settleDelay recorder
    let p := (fresh.run actions).practice
    fresh.switchedInTest actions = false →
      (∀ i, i ∈ p.session.completed ↔
        p.lines.findIdx Line.isTypeable ≤ i ∧ i < p.session.line) ∧
      p.session.typed =
        ((p.lines.take p.session.line).map Line.typingLen).sum + p.session.char ∧
      (p.phase = .complete → p.session.typed = (p.lines.map Line.typingLen).sum) := by
  intro fresh p hswitched
  have hs : fresh.Sound := begin_sound source info preset settleDelay recorder
  have hlife : fresh.Lifecycle := lifecycle_idle _ (begin_session ..) rfl
  have hi : p.Balanced :=
    (tracks_balanced.run hs ⟨hlife, fun _ => balanced_fresh (begin_session ..)⟩ actions).2
      (.inr hswitched)
  refine ⟨hi.spans.mem_iff, hi.typed_eq, fun hc => ?_⟩
  obtain ⟨hline, hchar⟩ := hi.complete hc
  rw [hi.typed_eq, hline, hchar, lengthBefore_length, Nat.add_zero]

/-- A slip, a pause, polls too early and too often, and completions of any generation: the three
characters of the words are what counts. The mode is switched before the test, not during it. -/
theorem typed_run_slip :
    let fresh := begin (.ofWords ["", "ab", "", "c"]) {} .minimal 50 none
    let actions : List Action := [.setPreset .full 0, .key (.plain 'x') 5, .key (.plain 'a') 10,
      .togglePause 12, .completeLine 2 15, .togglePause 18, .key (.plain 'b') 20, .poll 30,
      .completeLine 7 60, .poll 70, .poll 71, .key (.plain 'c') 80, .completeLine 2 90]
    let p := (fresh.run actions).practice
    p.phase = .complete ∧ p.session.typed = 3 ∧ 0 ∉ p.session.completed ∧
      1 ∈ p.session.completed := by
  obtain ⟨hset, -, htotal⟩ := typed_run (.ofWords ["", "ab", "", "c"]) {} .minimal 50 none
    [.setPreset .full 0, .key (.plain 'x') 5, .key (.plain 'a') 10,
      .togglePause 12, .completeLine 2 15, .togglePause 18, .key (.plain 'b') 20, .poll 30,
      .completeLine 7 60, .poll 70, .poll 71, .key (.plain 'c') 80, .completeLine 2 90]
    (by decide +kernel)
  refine ⟨by decide +kernel, (htotal (by decide +kernel)).trans (by decide +kernel), ?_, ?_⟩
  · exact mt (hset 0).1 (by decide +kernel)
  · exact (hset 1).2 (by decide +kernel)

end Practice

end TypingTrainer
