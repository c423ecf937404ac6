import TypingTrainer.Proofs.Lifecycle
import TypingTrainer.Proofs.Pending
import TypingTrainer.Proofs.Stopwatch

namespace TypingTrainer.Practice

open Session (nextTypeable)

/-- What becomes of a practice with a switch of the mode. -/
structure SwitchedTo (p : Practice) (preset : Preset) (now : Instant) (r : Reply Unit) : Prop where
  preset_eq : r.practice.preset = preset
  lines_eq : r.practice.lines = (p.source.filter preset).lines
  generation_eq : r.practice.generation = p.generation + 1
  pending_eq : r.practice.pending = none
  char_eq : r.practice.session.char = 0
  missed_eq : r.practice.session.missed = false
  typed_eq : r.practice.session.typed = p.session.typed
  errors_eq : r.practice.session.errors = p.session.errors
  kept : r.practice.source = p.source ∧ r.practice.info = p.info ∧
    r.practice.settleDelay = p.settleDelay ∧ r.practice.recorder = p.recorder
  goesOn : p.phase = .running ∨ p.phase = .paused →
    ∀ j, NextTypeable r.practice.lines p.session.line j →
      r.practice.session = { p.session with
        line := j, char := 0, missed := false, completed := r.practice.session.completed } ∧
      (∀ i, i ∈ r.practice.session.completed ↔
        i ∈ p.session.completed ∨ p.session.line ≤ i ∧ i < j) ∧
      r.practice.phase = p.phase ∧ r.practice.result = p.result ∧ r.calls = [] ∧
      r.events = if p.session.line < j then [.lineCompleted] else []
  /-- Nothing is left to type, and the test is over. An open pause is closed, and the clock read. -/
  ends : p.phase = .running ∨ p.phase = .paused →
    (∀ l ∈ r.practice.lines.drop p.session.line, l.isTypeable = false) →
      r.practice.session = { p.session.closePause now with
        active := false
        endedAt := some now
        line := r.practice.session.line
        char := 0
        missed := false
        completed := r.practice.session.completed } ∧
      (∃ result, r.practice.result = some result ∧
        result.elapsed.duration = (p.elapsed now).duration ∧ r.calls = p.callsFor result) ∧
      r.practice.phase = .complete ∧ r.events = [.testCompleted]
  idle : p.phase = .idle →
    FirstTypeable r.practice.lines r.practice.session.line ∧
      r.practice.session = { p.session with
        line := r.practice.session.line, char := 0, missed := false } ∧
      r.practice.result = p.result ∧ r.events = [] ∧ r.calls = []
  complete : p.phase = .complete →
    r.practice = { p with
      preset := preset
      lines := (p.source.filter preset).lines
      generation := p.generation + 1 } ∧
    r.events = [] ∧ r.calls = []

variable {p q : Practice} {a : Action} {es : List Event} {cs : List Call} {now : Instant}
variable {preset : Preset} {i j : Nat}

def Rested (p : Practice) : Prop :=
  p.phase = .complete → p.session.char = 0 ∧ p.session.missed = false

theorem Rested.move (hs : p.Sound) (hi : p.Rested) (h : Move p a q es cs) : q.Rested := by
  intro hq
  cases h with
  | start k now _ h => exact nomatch hq.symm.trans (hs.phase_start h now)
  | hit k now _ l c h | miss k now _ l c h => exact nomatch hq.symm.trans h
  | pause now _ h => exact nomatch hq.symm.trans (phase_pause h now)
  | resume now _ h => exact nomatch hq.symm.trans (phase_resume h now)
  | forget => exact hi hq
  | resetKey | reset | replace | nextLine | finish | switchIdle | switch => exact ⟨rfl, rfl⟩

theorem run_rested (hs : p.Sound) (hi : p.Rested) (actions : List Action) :
    (p.run actions).practice.Rested :=
  (run_preserves (P := Rested) hs hi fun _ hs hi hm => hi.move hs hm).2

theorem Lifecycle.duration_closePause (hi : p.Lifecycle) (now : Instant) :
    ((p.session.closePause now).reading now).duration = (p.elapsed now).duration := by
  refine Session.duration_closePause (fun hpaused => ?_) now
  simpa [hpaused] using hi.paused_iff

theorem Lifecycle.switchedTo_active (hs : p.Sound) (hi : p.Lifecycle)
    (h : p.phase = .running ∨ p.phase = .paused) (preset : Preset) (now : Instant) :
    p.SwitchedTo preset now (p.setPreset preset now) := by
  have hidle : p.phase ≠ .idle := by rcases h with h | h <;> simp [h]
  have hcomplete : p.phase ≠ .complete := by rcases h with h | h <;> simp [h]
  rcases Session.nextTypeable_cases (p.switched preset).lines p.session.line with hj | hnone
  · rw [setPreset_goesOn h hj]
    constructor <;> try rfl
    case kept => exact ⟨rfl, rfl, rfl, rfl⟩
    case goesOn =>
      intro _ j hj'
      obtain rfl := Session.eq_nextTypeable hj'
      refine ⟨rfl, fun i => ?_, rfl, rfl, rfl, rfl⟩
      rw [SortedSet.mem_insertMany, List.mem_range'_1, Nat.add_sub_cancel' hj'.le]
    case ends => exact fun _ hnone => absurd hnone hj.not_forall
    case idle => exact fun hp => absurd hp hidle
    case complete => exact fun hp => absurd hp hcomplete
  · rw [setPreset_ends hs h hnone]
    constructor <;> try rfl
    case kept => exact ⟨rfl, rfl, rfl, rfl⟩
    case goesOn => exact fun _ j hj => absurd hnone hj.not_forall
    case ends =>
      intro _ _
      refine ⟨rfl, ⟨_, rfl, ?_, rfl⟩, Session.phase_eq_complete.2 rfl, rfl⟩
      exact hi.duration_closePause now
    case idle => exact fun hp => absurd hp hidle
    case complete => exact fun hp => absurd hp hcomplete

theorem switchedTo_idle (h : p.phase = .idle) (preset : Preset) (now : Instant) :
    p.SwitchedTo preset now (p.setPreset preset now) := by
  rw [setPreset_eq, h]
  constructor <;> try rfl
  case kept => exact ⟨rfl, rfl, rfl, rfl⟩
  case goesOn | ends => exact fun hp => by rcases hp with hp | hp <;> cases h.symm.trans hp
  case idle => exact fun _ => ⟨Session.firstTypeable_nextTypeable _, rfl, rfl, rfl, rfl⟩
  case complete => exact fun hp => nomatch h.symm.trans hp

theorem Rested.switchedTo (hi : p.Rested) (hs : p.Scheduled) (h : p.phase = .complete)
    (preset : Preset) (now : Instant) : p.SwitchedTo preset now (p.setPreset preset now) := by
  rw [setPreset_eq, h]
  constructor <;> try rfl
  case kept => exact ⟨rfl, rfl, rfl, rfl⟩
  case goesOn | ends => exact fun hp => by rcases hp with hp | hp <;> cases h.symm.trans hp
  case idle => exact fun hp => nomatch h.symm.trans hp
  case complete =>
    intro _
    obtain ⟨hchar, hmissed⟩ := hi h
    have hpending : p.pending = none := hs.pending_eq_none (.inr h)
    have hsession : { p.session with char := 0, missed := false } = p.session := by
      rw [← hchar, ← hmissed]
    refine ⟨?_, rfl, rfl⟩
    simp only [switched, hsession, ← hpending]

/-- In every run, what a switch of the mode changes is this and nothing else. -/
theorem setPreset_run (source : Snippet) (info : SnippetInfo) (preset : Preset)
    (settleDelay : Duration) (recorder : Option Recorder) (actions : List Action)
    (other : Preset) (now : Instant) :
    let p := ((begin source info preset settleDelay recorder).run actions).practice
    p.SwitchedTo other now (p.setPreset other now) := by
  intro p
  have hs := begin_sound source info preset settleDelay recorder
  have hlifecycle : p.Lifecycle := run_lifecycle hs (lifecycle_idle _ (begin_session ..) rfl) actions
  have hscheduled : p.Scheduled := run_scheduled hs (scheduled_none rfl rfl) actions
  have hfresh : (begin source info preset settleDelay recorder).Rested := fun _ => by
    rw [begin_session]
    exact ⟨rfl, rfl⟩
  have hrested : p.Rested := run_rested hs hfresh actions
  cases h : p.phase with
  | idle => exact switchedTo_idle h other now
  | running => exact hlifecycle.switchedTo_active (run_sound hs actions) (.inl h) other now
  | paused => exact hlifecycle.switchedTo_active (run_sound hs actions) (.inr h) other now
  | complete => exact hrested.switchedTo hscheduled h other now

/-- The second of three lines has only an operator: in the pause after the first line it is passed
over, and the pause goes on at the third. -/
theorem setPreset_run_paused :
    let fresh := begin (.ofTokens [.ofText "=" "operator" [.operator] 0,
      .ofText "=" "operator" [.operator] 0, .ofText "a" "identifier" [.identifier] 0]) {} .full 50
      none
    let p := (fresh.run [.key (.plain '=') 10, .poll 60, .togglePause 70]).practice
    let r := p.setPreset .minimal 80
    p.session.line = 1 ∧ r.practice.session.line = 2 ∧ r.practice.phase = .paused ∧
      1 ∈ r.practice.session.completed ∧ r.events = [.lineCompleted] := by
  intro fresh p r
  have hr : p.SwitchedTo .minimal 80 r := setPreset_run _ _ _ _ _ _ .minimal 80
  have hline : p.session.line = 1 := by decide +kernel
  have hpaused : p.phase = .paused := by decide +kernel
  have hnext : nextTypeable r.practice.lines p.session.line = 2 := by decide +kernel
  have hlt : 2 < r.practice.lines.length := by decide +kernel
  -- the facts above were evaluated, from here on only the frame is used
  clear_value r p
  have hj : NextTypeable r.practice.lines p.session.line 2 :=
    hnext ▸ Session.nextTypeable_of_lt_length (hnext.symm ▸ hlt)
  obtain ⟨hsession, hcompleted, hphase, -, -, hevents⟩ := hr.goesOn (.inr hpaused) 2 hj
  refine ⟨hline, congrArg Session.line hsession, hphase.trans hpaused, (hcompleted 1).2 ?_, ?_⟩
  · exact .inr ⟨Nat.le_of_eq hline, by decide⟩
  · rw [hevents, hline]
    rfl

end TypingTrainer.Practice
