import TypingTrainer.Proofs.History

namespace TypingTrainer

open Session (nextTypeable le_nextTypeable isTypeable_eq_false)

theorem Session.mem_completed_moveOn (s : Session) (lines : List Line) (i : Nat) :
    i ∈ (s.moveOn lines).completed ↔
      i ∈ s.completed ∨ s.line ≤ i ∧ i < nextTypeable lines (s.line + 1) := by
  have hle := le_nextTypeable lines (s.line + 1)
  simp only [moveOn, SortedSet.mem_insertMany, List.mem_range'_1]
  constructor
  · rintro (h | h)
    · exact .inl h
    · exact .inr (by omega)
  · rintro (h | h)
    · exact .inl h
    · exact .inr (by omega)

namespace Practice

variable {p q : Practice} {a : Action} {es : List Event} {cs : List Call} {now : Instant}

def seeStart : Observer Nat :=
  fun _ _ q _ s => if q.phase = .idle then q.session.line else s

/-- The line at which the present session started, or would start. -/
def startLine (p : Practice) (actions : List Action) : Nat :=
  p.observe seeStart p.session.line actions

/-- The completed lines are those from `s` up to the cursor. -/
structure Spans (p : Practice) (s : Nat) : Prop where
  idle : p.phase = .idle → s = p.session.line
  le : s ≤ p.session.line
  mem_iff : ∀ i, i ∈ p.session.completed ↔ s ≤ i ∧ i < p.session.line

variable {s i : Nat}

theorem not_mem_completed_begin (source : Snippet) (info : SnippetInfo) (preset : Preset)
    (settleDelay : Duration) (recorder : Option Recorder) (i : Nat) :
    i ∉ (begin source info preset settleDelay recorder).session.completed := by
  rw [begin_session]
  exact SortedSet.not_mem_empty i

theorem spans_fresh (hempty : ∀ i, i ∉ p.session.completed) : p.Spans p.session.line where
  idle _ := rfl
  le := Nat.le_refl _
  mem_iff i := by
    constructor
    · intro h
      exact absurd h (hempty i)
    · intro h
      omega

theorem spans_idle (hq : q.phase = .idle) (hempty : ∀ i, i ∉ q.session.completed) :
    q.Spans (seeStart p a q es s) := by
  rw [seeStart, if_pos hq]
  exact spans_fresh hempty

theorem Spans.kept (hi : p.Spans s) (hidle : q.phase = .idle → p.phase = .idle)
    (hline : q.session.line = p.session.line)
    (hcompleted : q.session.completed = p.session.completed) :
    q.Spans (seeStart p a q es s) := by
  have hle : s ≤ q.session.line := hline ▸ hi.le
  have hmem : ∀ i, i ∈ q.session.completed ↔ s ≤ i ∧ i < q.session.line := by
    intro i
    rw [hline, hcompleted, hi.mem_iff]
  by_cases hq : q.phase = .idle
  · have hs : s = q.session.line := by
      rw [hline]
      exact hi.idle (hidle hq)
    rw [seeStart, if_pos hq, ← hs]
    exact ⟨fun _ => hs, hle, hmem⟩
  · rw [seeStart, if_neg hq]
    exact ⟨fun h => absurd h hq, hle, hmem⟩

theorem Leaves.line_eq (h : p.Leaves a now q) : q.session.line = p.session.line := by
  cases h <;> rfl

theorem Leaves.completed_eq (h : p.Leaves a now q) :
    q.session.completed = p.session.completed := by
  cases h <;> rfl

theorem Leaves.not_idle (h : p.Leaves a now q) : q.phase ≠ .idle := by
  intro hidle
  rcases h.running_or_paused with hp | hp <;> exact nomatch hidle.symm.trans (h.phase_eq.trans hp)

theorem Spans.moveOn {r : Practice} (hi : p.Spans s) (hq : p.Leaves a now q)
    (hr : r.phase ≠ .idle)
    (hline : r.session.line = nextTypeable q.lines (q.session.line + 1))
    (hcompleted : r.session.completed = (q.session.moveOn q.lines).completed) :
    r.Spans (seeStart p a r es s) := by
  have hle := hi.le
  have hnext := le_nextTypeable q.lines (q.session.line + 1)
  have hsame := hq.line_eq
  rw [seeStart, if_neg hr]
  refine ⟨fun h => absurd h hr, by omega, fun i => ?_⟩
  rw [hcompleted, Session.mem_completed_moveOn, hq.completed_eq, hi.mem_iff]
  omega

theorem Spans.move (hs : p.Sound) (hi : p.Spans s) (h : Move p a q es cs) :
    q.Spans (seeStart p a q es s) := by
  cases h with
  | start k now _ h =>
      refine hi.kept (fun hidle => ?_) rfl rfl
      exact nomatch hidle.symm.trans (hs.phase_start h now)
  | hit | miss | forget | switch => exact hi.kept id rfl rfl
  | pause now _ h =>
      refine hi.kept (fun hidle => ?_) rfl rfl
      exact nomatch hidle.symm.trans (phase_pause h now)
  | resume now _ h =>
      refine hi.kept (fun hidle => ?_) rfl rfl
      exact nomatch hidle.symm.trans (phase_resume h now)
  | nextLine now q hq h => exact hi.moveOn hq hq.not_idle rfl rfl
  | finish now q hq h =>
      have hcomplete : (q.conclude now).practice.phase = .complete :=
        Session.phase_eq_complete.2 rfl
      exact hi.moveOn hq (fun hidle => nomatch hidle.symm.trans hcomplete) rfl rfl
  | resetKey | reset | replace => exact spans_idle rfl SortedSet.not_mem_empty
  | switchIdle preset now _ h =>
      have hempty : ∀ i, i ∉ p.session.completed := by
        intro i hmem
        have hline := hi.idle h
        have hrange := (hi.mem_iff i).1 hmem
        omega
      exact spans_idle h hempty

theorem tracks_spans : Tracks seeStart Spans where
  still hi _ _ := hi.kept id rfl rfl
  move hs hi h := hi.move hs h
  start _ _ hrunning := by simp [seeStart, hrunning]

def hitBy (p : Practice) (a : Action) (es : List Event) : List Char :=
  match a with
  | .key k _ =>
    match k.classify p.phase with
    | .type c => if .charTyped true ∈ es then [c] else []
    | _ => []
  | _ => []

def seeWord : Observer (List Char) := fun p a q es word =>
  if p.startsOver a ∨ a.isSwitch ∨ q.session.line ≠ p.session.line then []
  else word ++ p.hitBy a es

/-- The characters typed right since the cursor came to its line, or since the mode was switched
there. -/
def wordTyped (p : Practice) (actions : List Action) : List Char := p.observe seeWord [] actions

def Spelt (p : Practice) (word : List Char) : Prop :=
  ∀ l, p.current? = some l → word = l.sequence.toList.take p.session.char

variable {word : List Char}

theorem spelt_fresh (hchar : p.session.char = 0) : p.Spelt [] := by
  intro l _
  rw [hchar, List.take_zero]

theorem seeWord_fresh
    (h : p.startsOver a ∨ a.isSwitch ∨ q.session.line ≠ p.session.line) :
    seeWord p a q es word = [] := if_pos h

theorem seeWord_kept (hover : p.startsOver a = false) (hswitch : a.isSwitch = false)
    (hline : q.session.line = p.session.line) :
    seeWord p a q es word = word ++ p.hitBy a es := by
  simp [seeWord, hover, hswitch, hline]

theorem hitBy_quiet (hes : .charTyped true ∉ es) : p.hitBy a es = [] := by
  unfold hitBy
  split
  · split
    · rw [if_neg hes]
    · rfl
  · rfl

theorem Spelt.kept (hw : p.Spelt word) (hover : p.startsOver a = false)
    (hswitch : a.isSwitch = false) (hes : .charTyped true ∉ es) (hlines : q.lines = p.lines)
    (hline : q.session.line = p.session.line) (hchar : q.session.char = p.session.char) :
    q.Spelt (seeWord p a q es word) := by
  rw [seeWord_kept hover hswitch hline, hitBy_quiet hes, List.append_nil]
  intro l hl
  rw [hchar]
  apply hw
  rw [current?, Session.current?, ← hline, ← hlines]
  exact hl

theorem startsOver_type {k : Key} {c : Char} (hk : k.classify p.phase = .type c) :
    p.startsOver (.key k now) = false := by
  simp [startsOver, hk]

theorem Spelt.hit (hw : p.Spelt word) {k : Key} {l : Line} {c : Char}
    (hl : p.current? = some l) (hc : l.expected? p.session.char = some c)
    (hk : k.classify p.phase = .type c) :
    (p.hit l now).Spelt (seeWord p (.key k now) (p.hit l now) [.charTyped true] word) := by
  have hword : p.hitBy (.key k now) [.charTyped true] = [c] := by simp [hitBy, hk]
  have hsee : seeWord p (.key k now) (p.hit l now) [.charTyped true] word = word ++ [c] := by
    rw [← hword]
    exact seeWord_kept (startsOver_type hk) rfl rfl
  rw [hsee]
  intro m hm
  obtain rfl : l = m := Option.some.inj (hl.symm.trans hm)
  have hchar : (p.hit l now).session.char = p.session.char + 1 := rfl
  have hlast : l.sequence.toList[p.session.char]? = some c := hc
  rw [hchar, List.take_add_one, hlast, ← hw l hl]
  rfl

theorem Spelt.move (hw : p.Spelt word) (h : Move p a q es cs) :
    q.Spelt (seeWord p a q es word) := by
  cases h with
  | start k now ha h c hk =>
      subst ha
      exact hw.kept (startsOver_type hk) rfl (by simp) rfl rfl rfl
  | hit k now ha l c h hl hc hk =>
      subst ha
      exact hw.hit hl hc hk
  | miss k now ha l c h hl hc d hk =>
      subst ha
      exact hw.kept (startsOver_type hk) rfl (by simp) rfl rfl rfl
  | pause now ha h hover hswitch | resume now ha h hover hswitch =>
      exact hw.kept hover hswitch (by simp) rfl rfl rfl
  | forget now hc =>
      exact hw.kept hc.not_startsOver.1 hc.not_startsOver.2 (by simp) rfl rfl rfl
  | nextLine now q hq | finish now q hq =>
      have hsame := hq.line_eq
      have hnext := le_nextTypeable q.lines (q.session.line + 1)
      rw [seeWord_fresh]
      · exact spelt_fresh rfl
      · right
        right
        change nextTypeable q.lines (q.session.line + 1) ≠ p.session.line
        omega
  | resetKey k now ha h =>
      subst ha
      rw [seeWord_fresh (.inl (by simp [startsOver, h]))]
      exact spelt_fresh rfl
  | reset ha | replace _ _ ha =>
      subst ha
      rw [seeWord_fresh (.inl rfl)]
      exact spelt_fresh rfl
  | switchIdle preset now ha | switch preset now ha =>
      subst ha
      rw [seeWord_fresh (.inr (.inl rfl))]
      exact spelt_fresh rfl

theorem tracks_spelt : Tracks seeWord Spelt where
  still hw hover hswitch := hw.kept hover hswitch (by simp) rfl rfl rfl
  move _ hw h := hw.move h
  start := by
    intro p k now c q es word hidle hk hrunning
    have hk' := classify_started hidle hk hrunning
    have hstart : seeWord p (.key k now) (p.started now) [.testStarted] word = word := by
      rw [seeWord_kept (q := p.started now) (startsOver_type hk) rfl rfl, hitBy_quiet (by simp),
        List.append_nil]
    have hword : p.hitBy (.key k now) (.testStarted :: es) =
        (p.started now).hitBy (.key k now) es := by
      simp [hitBy, hk, hk']
    rw [hstart, seeWord, seeWord, startsOver_type hk, startsOver_type hk', hword]
    rfl

/-- What it takes for `a` to complete line `i`, if there is such a line at all: nothing is to be
typed on it under the mode now in force, or it is the current line and `word`, typed before, is all
of it. -/
def Earned (p : Practice) (a : Action) (q : Practice) (word : List Char) (i : Nat) : Prop :=
  ∀ l, q.lines[i]? = some l → l.sequence = "" ∨
    i = p.session.line ∧ a.isSwitch = false ∧ l.sequence.toList = word

theorem Leaves.earned (hw : p.Spelt word) (hq : p.Leaves a now q)
    (hi : i ∈ (q.session.moveOn q.lines).completed) (hnot : i ∉ p.session.completed) :
    p.Earned a q word i := by
  intro l hl
  have hline := hq.line_eq
  rw [Session.mem_completed_moveOn, hq.completed_eq] at hi
  obtain ⟨hge, hlt⟩ := hi.resolve_left hnot
  -- the line that is left, or one of those that the cursor passes over behind it
  by_cases hcurrent : i = p.session.line
  · cases hq with
    | typedOut hc h hd =>
        have hl' : p.current? = some l := by
          rw [current?, Session.current?, ← hcurrent]
          exact hl
        have hlen : l.typingLen ≤ p.session.char := by simpa [lineDone, hl'] using hd
        refine .inr ⟨hcurrent, hc.not_startsOver.2, ?_⟩
        rw [hw l hl', List.take_of_length_le]
        rwa [String.length_toList]
    | emptied preset ha h hn =>
        have hl' : (p.switched preset).current? = some l := by
          rw [current?, Session.current?, hline, ← hcurrent]
          exact hl
        rw [hl', Option.any_some] at hn
        exact .inl ((Line.isTypeable_eq_false_iff l).1 hn)
  · have hnone : l.isTypeable = false := isTypeable_eq_false (by omega) hlt hl
    exact .inl ((Line.isTypeable_eq_false_iff l).1 hnone)

theorem Turn.earned (hw : p.Spelt word) (h : Turn p a q es cs) (hi : i ∈ q.session.completed)
    (hnot : i ∉ p.session.completed) : p.Earned a q word i := by
  cases h with
  | still => exact absurd hi hnot
  | move h =>
      cases h with
      | nextLine now r hr | finish now r hr =>
          have hearned : p.Earned a r word i := hr.earned hw hi hnot
          exact hearned
      | resetKey | reset | replace => exact absurd hi (SortedSet.not_mem_empty i)
      | _ => exact absurd hi hnot

theorem step_earned (hs : p.Sound) (hw : p.Spelt word)
    (hi : i ∈ (p.step a).practice.session.completed) (hnot : i ∉ p.session.completed) :
    p.Earned a (p.step a).practice word i := by
  rcases step_cases hs a with hturn | ⟨k, now, es, hopens⟩
  · exact hturn.earned hw hi hnot
  · exact hopens.turn.earned (p := p.started now) hw hi hnot

/-- In every run the completed lines are those from the line at which the session started up to the
cursor, and each of them was completed at some step because there was no such line, nothing was to
be typed on it, or all of it had been typed. -/
theorem completed_run (source : Snippet) (info : SnippetInfo) (preset : Preset)
    (settleDelay : Duration) (recorder : Option Recorder) (actions : List Action) :
    let fresh := begin source info preset settleDelay recorder
    let p := (fresh.run actions).practice
    let s := fresh.startLine actions
    (p.phase = .idle → s = p.session.line) ∧
    (∀ i, i ∈ p.session.completed ↔ s ≤ i ∧ i < p.session.line) ∧
    ∀ i ∈ p.session.completed, ∃ earlier a later, actions = earlier ++ a :: later ∧
      let before := (fresh.run earlier).practice
      let after := (before.step a).practice
      i ∉ before.session.completed ∧
      (∀ n, i ∈ (after.run (later.take n)).practice.session.completed) ∧
      before.Earned a after (fresh.wordTyped earlier) i := by
  intro fresh p s
  have hs : fresh.Sound := begin_sound source info preset settleDelay recorder
  have hnone (i : Nat) : i ∉ fresh.session.completed :=
    not_mem_completed_begin source info preset settleDelay recorder i
  have hchar : fresh.session.char = 0 := congrArg Session.char (begin_session ..)
  have hspans : p.Spans s := tracks_spans.run hs (spans_fresh hnone) actions
  refine ⟨hspans.idle, hspans.mem_iff, ?_⟩
  intro i hi
  rcases holds_since (Q := fun q => i ∈ q.session.completed) hi with hall | hsince
  · exact absurd (hall 0) (hnone i)
  · obtain ⟨earlier, a, later, heq, hnot, hstays⟩ := hsince
    have hword : (fresh.run earlier).practice.Spelt (fresh.wordTyped earlier) :=
      tracks_spelt.run hs (spelt_fresh hchar) earlier
    have hearned := step_earned (run_sound hs earlier) hword (hstays 0) hnot
    exact ⟨earlier, a, later, heq, hnot, hstays, hearned⟩

/-- A word typed out after a slip, and the empty line behind it. -/
theorem completed_run_word :
    let fresh := begin (.ofWords ["ab", "", "c"]) {} .full 50 none
    let typed : List Action := [.key (.plain 'x') 5, .key (.plain 'a') 10, .key (.plain 'b') 20]
    let p := (fresh.run (typed ++ [.poll 70])).practice
    fresh.startLine [] = 0 ∧ 0 ∈ p.session.completed ∧ 1 ∈ p.session.completed ∧
      2 ∉ p.session.completed ∧ fresh.wordTyped typed = ['a', 'b'] ∧
      ∃ earlier a later, typed ++ [.poll 70] = earlier ++ a :: later ∧
        (fresh.run earlier).practice.Earned a ((fresh.run earlier).practice.step a).practice
          (fresh.wordTyped earlier) 0 := by
  have hidle := (completed_run (.ofWords ["ab", "", "c"]) {} .full 50 none []).1 rfl
  obtain ⟨-, hrange, hearned⟩ := completed_run (.ofWords ["ab", "", "c"]) {} .full 50 none
    [.key (.plain 'x') 5, .key (.plain 'a') 10, .key (.plain 'b') 20, .poll 70]
  have hfirst := (hrange 0).2 (by decide +kernel)
  have hsecond := (hrange 1).2 (by decide +kernel)
  have hthird := mt (hrange 2).1 (by decide +kernel)
  obtain ⟨earlier, a, later, heq, -, -, h⟩ := hearned 0 hfirst
  exact ⟨hidle, hfirst, hsecond, hthird, by decide +kernel, earlier, a, later, heq, h⟩

end Practice

end TypingTrainer
