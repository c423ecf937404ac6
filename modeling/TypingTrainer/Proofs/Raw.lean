import TypingTrainer.Proofs.Moves

namespace TypingTrainer

def Token.raw (t : Token) : Token := { t with typeable := false }

def Line.raw (l : Line) : Line :=
  { l with tokens := l.tokens.map Token.raw, sequence := "", charMap := ∅ }

def Snippet.raw (s : Snippet) : Snippet := { s with lines := s.lines.map Line.raw }

namespace Filter

variable {rules : Rules}

theorem tagCloses_raw (tokens : List Token) :
    tagCloses (tokens.map Token.raw) = tagCloses tokens := by
  induction tokens with
  | nil => rfl
  | cons t rest ih =>
      rw [List.map_cons, tagCloses, tagCloses, ih]
      rfl

theorem isTagName_raw (before? : Option Token) (t : Token) (rest : List Token) :
    isTagName (before?.map Token.raw) t.raw (rest.map Token.raw) = isTagName before? t rest := by
  rw [isTagName, isTagName, tagCloses_raw]
  cases before? <;> rfl

theorem decides_raw (before? : Option Token) (t : Token) (rest : List Token) :
    decides rules (before?.map Token.raw) t.raw (rest.map Token.raw) =
      decides rules before? t rest := by
  rw [decides, decides, isTagName_raw]
  rfl

theorem flagFrom_raw (before? : Option Token) (tokens : List Token) :
    flagFrom rules (before?.map Token.raw) (tokens.map Token.raw) =
      flagFrom rules before? tokens := by
  induction tokens generalizing before? with
  | nil => rfl
  | cons t rest ih =>
      rw [List.map_cons, flagFrom, flagFrom, decides_raw, ← ih (some t)]
      rfl

theorem map_raw_flagFrom (before? : Option Token) (tokens : List Token) :
    (flagFrom rules before? tokens).map Token.raw = tokens.map Token.raw := by
  induction tokens generalizing before? with
  | nil => rfl
  | cons t rest ih =>
      rw [flagFrom, List.map_cons, List.map_cons, ih]
      rfl

end Filter

theorem Line.filter_raw (l : Line) (preset : Preset) : l.raw.filter preset = l.filter preset := by
  have hflag : Filter.flag preset.rules l.raw.tokens = Filter.flag preset.rules l.tokens :=
    Filter.flagFrom_raw none l.tokens
  simp only [Line.filter, hflag]
  rfl

theorem Line.raw_filter (l : Line) (preset : Preset) : (l.filter preset).raw = l.raw := by
  simp only [Line.filter, Line.raw, Filter.flag, Filter.map_raw_flagFrom]

theorem Line.filter_congr {l m : Line} (h : l.raw = m.raw) (preset : Preset) :
    l.filter preset = m.filter preset := by
  rw [← l.filter_raw, h, m.filter_raw]

theorem Snippet.filter_raw (s : Snippet) (preset : Preset) :
    s.raw.filter preset = s.filter preset := by
  simp only [Snippet.filter, Snippet.raw, List.map_map, Function.comp_def, Line.filter_raw]

theorem Snippet.raw_filter (s : Snippet) (preset : Preset) : (s.filter preset).raw = s.raw := by
  simp only [Snippet.filter, Snippet.raw, List.map_map, Function.comp_def, Line.raw_filter]

theorem Snippet.raw_foldl_filter (s : Snippet) (presets : List Preset) :
    (presets.foldl Snippet.filter s).raw = s.raw := by
  induction presets generalizing s with
  | nil => rfl
  | cons preset rest ih => rw [List.foldl_cons, ih, s.raw_filter]

theorem Snippet.foldl_filter (s : Snippet) (presets : List Preset) (preset : Preset) :
    (presets ++ [preset]).foldl Snippet.filter s = s.filter preset := by
  rw [List.foldl_append, List.foldl_cons, List.foldl_nil, ← Snippet.filter_raw,
    s.raw_foldl_filter, s.filter_raw]

namespace Practice

def raw (p : Practice) : Practice := { p with source := p.source.raw }

def Reply.raw {α : Type} (r : Reply α) : Reply α := { r with practice := r.practice.raw }

def Action.raw : Action → Action
  | .replaceSnippet source info => .replaceSnippet source.raw info
  | a => a

section Operations

variable (p : Practice)

@[simp] theorem raw_session : p.raw.session = p.session := rfl

@[simp] theorem raw_lines : p.raw.lines = p.lines := rfl

@[simp] theorem raw_phase : p.raw.phase = p.phase := rfl

@[simp] theorem raw_current? : p.raw.current? = p.current? := rfl

@[simp] theorem raw_pending : p.raw.pending = p.pending := rfl

theorem follow_raw (r : Session.Reply Outcome) (now : Instant) :
    p.raw.follow r now = (p.follow r now).raw := by
  cases hr : r.answer with
  | ignored | handled | lineFinished | resetRequested => simp only [follow, hr]; rfl

theorem advance_raw (now : Instant) : p.raw.advance now = (p.advance now).raw := by
  rw [advance, advance, raw_lines, raw_session]
  dsimp only
  split <;> rfl

theorem completeLine_raw (generation : Nat) (now : Instant) :
    p.raw.completeLine generation now = (p.completeLine generation now).raw := by
  by_cases hg : generation = p.generation
  · subst hg
    by_cases hd : p.phase = .running ∧ p.lineDone = true
    · have hsettled : p.raw.settled = p.settled.raw := rfl
      have hraw := completeLine_done (p := p.raw) hd.1 hd.2 now
      rw [hsettled, advance_raw] at hraw
      rw [completeLine_done hd.1 hd.2]
      exact hraw
    · have hraw := completeLine_refused (p := p.raw) hd now
      rw [completeLine_refused hd]
      exact hraw
  · rw [completeLine_stale hg]
    exact completeLine_stale (p := p.raw) hg now

theorem poll_raw (now : Instant) : p.raw.poll now = (p.poll now).raw := by
  rw [poll, poll, raw_pending, raw_session]
  cases p.pending with
  | none => rfl
  | some c =>
      dsimp only
      split
      · exact p.completeLine_raw c.generation now
      · rfl

theorem switched_raw (preset : Preset) : p.raw.switched preset = (p.switched preset).raw := by
  simp only [switched, raw, Snippet.filter_raw]

theorem setPreset_raw (preset : Preset) (now : Instant) :
    p.raw.setPreset preset now = (p.setPreset preset now).raw := by
  rw [setPreset_eq, setPreset_eq, switched_raw, raw_phase]
  cases p.phase with
  | idle | complete => rfl
  | running | paused =>
      dsimp only
      rw [raw_current?]
      split
      · rfl
      · exact advance_raw (p.switched preset) now

theorem replaceSnippet_raw (source : Snippet) (info : SnippetInfo) :
    p.raw.replaceSnippet source.raw info = (p.replaceSnippet source info).raw := by
  simp only [replaceSnippet, raw, Snippet.filter_raw]
  rfl

theorem step_raw (a : Action) : p.raw.step a.raw = (p.step a).raw := by
  cases a with
  | key k now =>
      have hkey : p.raw.handleKey k now = (p.handleKey k now).raw :=
        p.follow_raw (p.session.handleKey p.lines k now) now
      exact congrArg (Reply.map Answer.outcome) hkey
  | poll now => exact congrArg (Reply.map Answer.advanced) (p.poll_raw now)
  | completeLine generation now =>
      exact congrArg (Reply.map Answer.advanced) (p.completeLine_raw generation now)
  | togglePause | reset => rfl
  | setPreset preset now =>
      exact congrArg (Reply.map fun _ => Answer.done) (p.setPreset_raw preset now)
  | replaceSnippet source info =>
      have hreplaced := p.replaceSnippet_raw source info
      simp only [step, Action.raw, hreplaced]
      rfl

theorem run_raw (actions : List Action) :
    p.raw.run (actions.map Action.raw) = (p.run actions).raw := by
  induction actions generalizing p with
  | nil => rfl
  | cons a rest ih =>
      rw [List.map_cons, run, run, step_raw]
      dsimp only [Reply.raw]
      rw [ih]
      rfl

end Operations

theorem begin_raw (source : Snippet) (info : SnippetInfo) (preset : Preset)
    (settleDelay : Duration) (recorder : Option Recorder) :
    begin source.raw info preset settleDelay recorder =
      (begin source info preset settleDelay recorder).raw := by
  simp only [begin, Snippet.filter_raw]
  rfl

theorem eq_of_raw_eq {p q : Practice} (h : q.raw = p.raw) : q = { p with source := q.source } := by
  cases p
  cases q
  simp only [raw, Practice.mk.injEq] at h
  simp only [Practice.mk.injEq]
  exact ⟨trivial, h.2⟩

variable {s t : Snippet} {actions others : List Action}

/-- Runs that differ only in flags, sequences and char maps of their snippets stay alike. -/
theorem run_raw_eq (hsource : t.raw = s.raw)
    (hactions : others.map Action.raw = actions.map Action.raw) (info : SnippetInfo)
    (preset : Preset) (settleDelay : Duration) (recorder : Option Recorder) :
    ((begin t info preset settleDelay recorder).run others).raw =
      ((begin s info preset settleDelay recorder).run actions).raw := by
  rw [← run_raw, ← run_raw, ← begin_raw, ← begin_raw, hsource, hactions]

/-- A filter looks at nothing that an earlier one wrote. Lines that agree in all else are the same
line under every mode, of a chain of modes only the last one shows, and runs whose snippets differ
in nothing else have the same answers, events, results and states; only the sources go on to differ
as they did. -/
theorem filter_run :
    (∀ (l m : Line) (preset : Preset), m.raw = l.raw → m.filter preset = l.filter preset) ∧
    (∀ (s : Snippet) (presets : List Preset) (preset : Preset),
      (presets ++ [preset]).foldl Snippet.filter s = s.filter preset) ∧
    ∀ (s t : Snippet) (info : SnippetInfo) (preset : Preset) (settleDelay : Duration)
      (recorder : Option Recorder) (actions others : List Action), t.raw = s.raw →
      others.map Action.raw = actions.map Action.raw →
      let r := (begin s info preset settleDelay recorder).run actions
      let r' := (begin t info preset settleDelay recorder).run others
      r'.answer = r.answer ∧ r'.events = r.events ∧ r'.calls = r.calls ∧
        r'.practice = { r.practice with source := r'.practice.source } ∧
        r'.practice.source.raw = r.practice.source.raw := by
  refine ⟨fun l m preset h => Line.filter_congr h preset, Snippet.foldl_filter, ?_⟩
  intro s t info preset settleDelay recorder actions others hsource hactions r r'
  have hraw : r'.raw = r.raw := run_raw_eq hsource hactions info preset settleDelay recorder
  have hpractice : r'.practice.raw = r.practice.raw := congrArg Reply.practice hraw
  exact ⟨congrArg (fun r => r.answer) hraw, congrArg (fun r => r.events) hraw,
    congrArg (fun r => r.calls) hraw, eq_of_raw_eq hpractice, congrArg Practice.source hpractice⟩

/-- A snippet as the full mode left it, with an operator that the minimal mode passes over.
Practised in the minimal mode it has no past, and neither has the one that replaces it. -/
theorem filter_run_stale :
    let s := Snippet.ofTokens [.ofText "=" "operator" [.operator] 0,
      .ofText "a" "identifier" [.identifier] 0]
    let r := (begin s {} .minimal 50 none).run
      [.key (.plain 'x') 5, .replaceSnippet s {}, .key (.plain 'a') 70]
    let r' := (begin (s.filter .full) {} .minimal 50 none).run
      [.key (.plain 'x') 5, .replaceSnippet (s.filter .standard) {}, .key (.plain 'a') 70]
    s.filter .full ≠ s.filter .minimal ∧ (s.filter .full).filter .minimal = s.filter .minimal ∧
      r'.events = r.events ∧ r'.practice.session = r.practice.session ∧
      r.practice.session.line = 1 := by
  intro s r r'
  obtain ⟨-, hchain, hrun⟩ := filter_run
  obtain ⟨-, hevents, -, hpractice, -⟩ := hrun s (s.filter .full) {} .minimal 50 none
    [.key (.plain 'x') 5, .replaceSnippet s {}, .key (.plain 'a') 70]
    [.key (.plain 'x') 5, .replaceSnippet (s.filter .standard) {}, .key (.plain 'a') 70]
    (s.raw_filter .full) (by simp only [List.map, Action.raw, s.raw_filter])
  refine ⟨by decide +kernel, hchain s [.full] .minimal, hevents, ?_, by decide +kernel⟩
  rw [hpractice]

end Practice

end TypingTrainer
