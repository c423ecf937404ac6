import TypingTrainer.Proofs.ConfigFile
import TypingTrainer.Proofs.Moves
import Mathlib.Logic.Function.Iterate

namespace TypingTrainer

def Key.commands (k : Key) (c : Char) : Bool :=
  k.kind == .press && k.modifiers.control && k.code == .char c

theorem Key.appAction_eq (k : Key) :
    k.appAction = if k.commands 'c' then .quit
      else if k.commands 'p' then .cyclePreset
      else if k.commands 'l' then .cycleLanguage
      else .session := by
  by_cases hpress : k.kind = .press ∧ k.modifiers.control = true
  · simp only [appAction, commands, hpress]
    grind
  · have hcommands : ∀ c, k.commands c = false := by
      intro c
      simp only [commands]
      grind
    simp only [appAction, hcommands]
    grind

theorem Key.commands_code {k : Key} {c : Char} (h : k.commands c = true) : k.code = .char c := by
  simp only [commands, Bool.and_eq_true, beq_iff_eq] at h
  exact h.2

def Input.commands (c : Char) : Input → Bool
  | .key k => k.commands c
  | .resize | .tick => false

@[simp]
theorem Snippet.embedded_language (l : Language) : (Snippet.embedded l).language = l := by
  cases l <;> rfl

structure Subject where
  source : Snippet
  info : SnippetInfo
  preset : Preset
  lines : List Line

def Subject.of (source : Snippet) (info : SnippetInfo) (preset : Preset) : Subject :=
  ⟨source, info, preset, (source.filter preset).lines⟩

namespace Practice

variable (p : Practice) (now : Instant)

def subject : Subject := ⟨p.source, p.info, p.preset, p.lines⟩

theorem subject_handleKey (k : Key) : (p.handleKey k now).practice.subject = p.subject := by
  rw [handleKey_eq, follow]
  dsimp only
  split <;> rfl

theorem subject_advance : (p.advance now).practice.subject = p.subject := by
  rw [advance]
  dsimp only
  split <;> rfl

theorem subject_completeLine (generation : Nat) :
    (p.completeLine generation now).practice.subject = p.subject := by
  by_cases hg : generation = p.generation
  · subst hg
    by_cases hd : p.phase = .running ∧ p.lineDone = true
    · rw [completeLine_done hd.1 hd.2]
      exact subject_advance p.settled now
    · rw [completeLine_refused hd]
      rfl
  · rw [completeLine_stale hg]

theorem subject_poll : (p.poll now).practice.subject = p.subject := by
  rw [poll]
  split
  · split
    · exact subject_completeLine p now _
    · rfl
  · rfl

theorem subject_setPreset (preset : Preset) :
    (p.setPreset preset now).practice.subject = .of p.source p.info preset := by
  rw [setPreset_eq]
  split
  · rfl
  · split
    · rfl
    · exact subject_advance (p.switched preset) now
  · split
    · rfl
    · exact subject_advance (p.switched preset) now
  · rfl

end Practice

namespace App

def step (a : App) : Input × Instant → Option App
  | (.key k, now) =>
    let r := a.handleKey k now
    if r.running then some r.app else none
  | (.resize, _) => some a
  | (.tick, now) => some (a.poll now).2

def run (a : App) (inputs : List (Input × Instant)) : Option App := inputs.foldlM step a

variable {a b c : App} {i : Input} {k : Key} {now : Instant} {presets languages : Nat}
variable {inputs : List (Input × Instant)}

/-- The configuration names the mode of the practice, and the store, which can be written, has this
configuration. -/
structure InStep (a : App) : Prop where
  preset_eq : a.config.preset = a.practice.preset
  store_eq : a.store = ⟨a.config, true⟩

theorem startApp_settings {args : CommandLine.Arguments} {env : Environment} {fs : Files}
    {choice : Nat} {config : Config} {writable : Bool}
    (h : (CommandLine.startApp args env fs choice config writable).outcome = .screen a) :
    a.config.preset = a.practice.preset ∧ a.store = ⟨a.config, writable⟩ := by
  rw [CommandLine.startApp] at h
  split at h
  · cases h
  · cases h
    exact ⟨rfl, rfl⟩

theorem inStep_start {args : List String} {env : Environment} {fs : Files} {choice : Nat}
    {terminal : Bool} (h : (CommandLine.run args env fs choice terminal).outcome = .screen a)
    (hwritable : a.store.writable = true) : a.InStep := by
  rw [CommandLine.run] at h
  split at h
  · cases h
  · dsimp only at h
    split at h
    · split at h <;> cases h
    · split at h
      · rw [CommandLine.exportStats] at h
        split at h
        · cases h
        · split at h <;> cases h
      · split at h
        · obtain ⟨hpreset, hstore⟩ := startApp_settings h
          refine ⟨hpreset, ?_⟩
          rw [hstore] at hwritable ⊢
          exact congrArg (Store.mk a.config) hwritable
        · cases h

def Loop.append (l m : Loop) : Loop := ⟨l.frames ++ m.frames, l.saved ++ m.saved⟩

theorem loop_append (a : App) (inputs more : List (Input × Instant)) :
    a.loop (inputs ++ more) =
      (a.loop inputs).append ((a.run inputs).elim {} fun b => b.loop more) := by
  induction inputs generalizing a with
  | nil => rfl
  | cons x rest ih =>
      have hrun : a.run (x :: rest) = (a.step x).bind fun b => b.run rest := rfl
      rw [hrun]
      obtain ⟨i, now⟩ := x
      cases i with
      | key k =>
          cases hrunning : (a.handleKey k now).running <;>
            simp [loop, step, hrunning, ih, Loop.append]
      | resize => simp [loop, step, ih, Loop.append]
      | tick =>
          simp only [List.cons_append, loop, step, ih, Option.bind_some]
          split <;> rfl

theorem handleKey_quit (h : k.commands 'c' = true) (a : App) (now : Instant) :
    a.handleKey k now = { app := a, running := false } := by
  simp [handleKey, Key.appAction_eq, h]

inductive Adjusts (a : App) (i : Input) (b : App) : Prop
  | preset (hp : i.commands 'p' = true) (hl : i.commands 'l' = false)
      (hsubject : b.practice.subject =
        .of a.practice.source a.practice.info a.practice.preset.next)
      (hconfig : b.config = { a.config with preset := a.practice.preset.next })
      (hstore : b.store = a.store.save b.config)
  | language (hp : i.commands 'p' = false) (hl : i.commands 'l' = true) (l : Language)
      (hnext : l = a.practice.source.language.next)
      (hsubject : b.practice.subject = .of (.embedded l) (.embedded l) a.practice.preset)
      (hconfig : b.config = { a.config with language := l })
      (hstore : b.store = a.store.save b.config)
  | neither (hp : i.commands 'p' = false) (hl : i.commands 'l' = false)
      (hsubject : b.practice.subject = a.practice.subject)
      (hconfig : b.config = a.config) (hstore : b.store = a.store)

theorem handleKey_session (hc : k.commands 'c' = false) (hp : k.commands 'p' = false)
    (hl : k.commands 'l' = false) (a : App) (now : Instant) :
    a.handleKey k now =
      { app := { a with practice := (a.practice.handleKey k now).practice }
        running := true
        calls := (a.practice.handleKey k now).calls } := by
  simp [handleKey, Key.appAction_eq, hc, hp, hl]

theorem handleKey_adjusts (hc : k.commands 'c' = false) (a : App) (now : Instant) :
    (a.handleKey k now).running = true ∧ a.Adjusts (.key k) (a.handleKey k now).app := by
  cases hp : k.commands 'p' with
  | true =>
      have hl : k.commands 'l' = false := by
        by_contra hl
        have hcode := Key.commands_code (Bool.not_eq_false _ ▸ hl)
        rw [Key.commands_code hp] at hcode
        exact absurd hcode (by decide)
      rw [handleKey, Key.appAction_eq, hc, hp]
      exact ⟨rfl, .preset hp hl (Practice.subject_setPreset _ now _) rfl rfl⟩
  | false =>
      cases hl : k.commands 'l' with
      | true =>
          rw [handleKey, Key.appAction_eq, hc, hp, hl]
          exact ⟨rfl, .language hp hl _ rfl rfl rfl rfl⟩
      | false =>
          rw [handleKey_session hc hp hl]
          exact ⟨rfl, .neither hp hl (Practice.subject_handleKey _ now k) rfl rfl⟩

theorem step_adjusts (h : a.step (i, now) = some b) : a.Adjusts i b := by
  cases i with
  | key k =>
      cases hc : k.commands 'c' with
      | true =>
          rw [step, handleKey_quit hc] at h
          exact nomatch h
      | false =>
          obtain ⟨hrunning, hadjusts⟩ := handleKey_adjusts hc a now
          rw [step, if_pos hrunning] at h
          exact Option.some.inj h ▸ hadjusts
  | resize =>
      obtain rfl : a = b := Option.some.inj h
      exact .neither rfl rfl rfl rfl rfl
  | tick =>
      obtain rfl : (a.poll now).2 = b := Option.some.inj h
      exact .neither rfl rfl (Practice.subject_poll _ now) rfl rfl

theorem saved_handleKey (h : k.commands 'p' = true ∨ k.commands 'l' = true) (a : App)
    (now : Instant) : (a.handleKey k now).saved = [(a.handleKey k now).app.config] := by
  have hc : k.commands 'c' = false := by
    by_contra hc
    have hcode := Key.commands_code (Bool.not_eq_false _ ▸ hc)
    rcases h with h | h <;>
      exact absurd ((Key.commands_code h).symm.trans hcode) (by decide)
  cases hp : k.commands 'p' with
  | true =>
      rw [handleKey, Key.appAction_eq, hc, hp]
      rfl
  | false =>
      have hl : k.commands 'l' = true := h.resolve_left (by simp [hp])
      rw [handleKey, Key.appAction_eq, hc, hp, hl]
      rfl

theorem saved_loop_cons (hstep : a.step (i, now) = some b) (inputs : List (Input × Instant)) :
    ∃ saved, (a.loop ((i, now) :: inputs)).saved = saved ++ (b.loop inputs).saved ∧
      (saved = [] ∧ b.config = a.config ∨ saved = [b.config]) := by
  cases i with
  | key k =>
      rw [step] at hstep
      split at hstep
      · next hrunning =>
        obtain rfl : (a.handleKey k now).app = b := Option.some.inj hstep
        refine ⟨(a.handleKey k now).saved, by rw [loop, if_pos hrunning], ?_⟩
        by_cases hcommand : k.commands 'p' = true ∨ k.commands 'l' = true
        · exact .inr (saved_handleKey hcommand a now)
        · obtain ⟨hp, hl⟩ := not_or.1 hcommand
          cases hc : k.commands 'c' with
          | true => exact .inl (by rw [handleKey_quit hc]; exact ⟨rfl, rfl⟩)
          | false =>
              rw [handleKey_session hc (Bool.eq_false_iff.2 hp) (Bool.eq_false_iff.2 hl)]
              exact .inl ⟨rfl, rfl⟩
      · exact nomatch hstep
  | resize =>
      obtain rfl : a = b := Option.some.inj hstep
      exact ⟨[], rfl, .inl ⟨rfl, rfl⟩⟩
  | tick =>
      obtain rfl : (a.poll now).2 = b := Option.some.inj hstep
      refine ⟨[], ?_, .inl ⟨rfl, rfl⟩⟩
      rw [loop]
      dsimp only
      split <;> rfl

/-- A file that takes every configuration that is saved has the last one. -/
theorem loadConfig_loop {fs gs : Files} {path : String} (hrun : a.run inputs = some b)
    (hfile : CommandLine.loadConfig fs path = a.config)
    (hsaved : (a.loop inputs).saved.foldlM (CommandLine.saveConfig · path ·) fs = .ok gs) :
    CommandLine.loadConfig gs path = b.config := by
  induction inputs generalizing a fs with
  | nil =>
      obtain rfl : a = b := Option.some.inj hrun
      obtain rfl : fs = gs := Except.ok.inj hsaved
      exact hfile
  | cons x rest ih =>
      obtain ⟨c, hstep, hrest⟩ := Option.bind_eq_some_iff.1 hrun
      obtain ⟨saved, hloop, hcase⟩ := saved_loop_cons hstep rest
      rw [hloop, List.foldlM_append] at hsaved
      obtain ⟨next, hnext, hmore⟩ := Json.of_bind_ok hsaved
      refine ih hrest ?_ hmore
      rcases hcase with ⟨rfl, hconfig⟩ | rfl
      · obtain rfl : fs = next := Except.ok.inj hnext
        rw [hfile, hconfig]
      · obtain ⟨last, hlast, hnext⟩ := Json.of_bind_ok hnext
        obtain rfl : last = next := Except.ok.inj hnext
        exact CommandLine.loadConfig_saveConfig hlast

/-- From `a` to `b` the settings went so many modes and so many languages on. The language of the
snippet that `a` begins with need not be the configured one. -/
structure Advances (a : App) (presets languages : Nat) (b : App) : Prop extends b.InStep where
  preset : b.practice.preset = Preset.next^[presets] a.practice.preset
  language : b.practice.source.language = Language.next^[languages] a.practice.source.language
  kept : languages = 0 → b.config.language = a.config.language
  embedded : 0 < languages → ∃ l, b.config.language = l ∧
    b.practice.subject = .of (.embedded l) (.embedded l) b.practice.preset

theorem InStep.advances (h : a.InStep) : a.Advances 0 0 a where
  toInStep := h
  preset := rfl
  language := rfl
  kept := fun _ => rfl
  embedded := fun h => absurd h (Nat.lt_irrefl 0)

theorem InStep.save (h : b.InStep) (hpreset : c.config.preset = c.practice.preset)
    (hstore : c.store = b.store.save c.config) : c.InStep := by
  refine ⟨hpreset, ?_⟩
  rw [hstore, h.store_eq]
  rfl

theorem Advances.adjusts (h : a.Advances presets languages b) (hi : b.Adjusts i c) :
    a.Advances (presets + (i.commands 'p').toNat) (languages + (i.commands 'l').toNat) c := by
  cases hi with
  | preset hp hl hsubject hconfig hstore =>
      have hsource : c.practice.source = b.practice.source := congrArg Subject.source hsubject
      have hpreset : c.practice.preset = b.practice.preset.next := congrArg Subject.preset hsubject
      have hlanguage : c.config.language = b.config.language := by rw [hconfig]
      rw [hp, hl]
      refine ⟨h.save ?_ hstore, ?_, ?_, fun hzero => ?_, fun hpos => ?_⟩
      · rw [hconfig, hpreset]
      · rw [hpreset, h.preset]
        exact (Function.iterate_succ_apply' ..).symm
      · rw [hsource]
        exact h.language
      · rw [hlanguage]
        exact h.kept hzero
      · obtain ⟨l, hl, hb⟩ := h.embedded hpos
        have hbsource : b.practice.source = .embedded l := congrArg Subject.source hb
        have hbinfo : b.practice.info = .embedded l := congrArg Subject.info hb
        refine ⟨l, hlanguage.trans hl, ?_⟩
        rw [hsubject, hbsource, hbinfo, hpreset]
  | language hp hl l hnext hsubject hconfig hstore =>
      have hsource : c.practice.source = .embedded l := congrArg Subject.source hsubject
      have hpreset : c.practice.preset = b.practice.preset := congrArg Subject.preset hsubject
      have hlanguage : c.config.language = l := by rw [hconfig]
      rw [hp, hl]
      refine ⟨h.save ?_ hstore, ?_, ?_, fun hzero => ?_, fun _ => ?_⟩
      · rw [hconfig, hpreset]
        exact h.preset_eq
      · rw [hpreset]
        exact h.preset
      · rw [hsource, Snippet.embedded_language, hnext, h.language]
        exact (Function.iterate_succ_apply' ..).symm
      · exact absurd hzero (Nat.succ_ne_zero languages)
      · exact ⟨l, hlanguage, by rw [hsubject, hpreset]⟩
  | neither hp hl hsubject hconfig hstore =>
      have hsource : c.practice.source = b.practice.source := congrArg Subject.source hsubject
      have hpreset : c.practice.preset = b.practice.preset := congrArg Subject.preset hsubject
      rw [hp, hl]
      refine ⟨⟨?_, ?_⟩, ?_, ?_, fun hzero => ?_, fun hpos => ?_⟩
      · rw [hconfig, hpreset]
        exact h.preset_eq
      · rw [hstore, hconfig]
        exact h.store_eq
      · rw [hpreset]
        exact h.preset
      · rw [hsource]
        exact h.language
      · rw [hconfig]
        exact h.kept hzero
      · rw [hconfig, hsubject, hpreset]
        exact h.embedded hpos

theorem Advances.run (h : a.Advances presets languages b) (hrun : b.run inputs = some c) :
    a.Advances (presets + inputs.countP (·.1.commands 'p'))
      (languages + inputs.countP (·.1.commands 'l')) c := by
  induction inputs generalizing b presets languages with
  | nil =>
      obtain rfl : b = c := Option.some.inj hrun
      exact h
  | cons x rest ih =>
      obtain ⟨d, hstep, hrest⟩ := Option.bind_eq_some_iff.1 hrun
      have hadvances := ih (h.adjusts (step_adjusts hstep)) hrest
      have hcount : ∀ letter, (x.1.commands letter).toNat +
          rest.countP (·.1.commands letter) = (x :: rest).countP (·.1.commands letter) := by
        intro letter
        cases hx : x.1.commands letter <;> simp [hx, Nat.add_comm]
      rwa [Nat.add_assoc, Nat.add_assoc, hcount, hcount] at hadvances

/-- The mode and the language go on once for each of their keys, in the practice and in what is
stored; only the language of the first snippet may differ from the configured one. No other key
changes the configuration or the store, and the one that quits changes nothing. A file in place of
the store follows if it takes what is saved. -/
theorem inStep_run (h : a.InStep) (hrun : a.run inputs = some b) :
    let presets := inputs.countP (·.1.commands 'p')
    let languages := inputs.countP (·.1.commands 'l')
    let language := Language.next^[languages] a.practice.source.language
    b.config.preset = b.practice.preset ∧
    b.practice.preset = Preset.next^[presets] a.practice.preset ∧
    b.practice.source.language = language ∧
    b.config.language = (if languages = 0 then a.config.language else language) ∧
    (0 < languages → b.practice.subject =
      .of (.embedded language) (.embedded language) b.practice.preset ∧
      b.practice.info.id = some (language.name ++ "-default")) ∧
    b.store = ⟨b.config, true⟩ ∧
    (∀ fs gs path, CommandLine.loadConfig fs path = a.config →
      (a.loop inputs).saved.foldlM (CommandLine.saveConfig · path ·) fs = .ok gs →
      CommandLine.loadConfig gs path = b.config) ∧
    ∀ k now,
      (k.commands 'c' = true → b.handleKey k now = { app := b, running := false }) ∧
      (k.commands 'c' = false → (b.handleKey k now).running = true) ∧
      (k.commands 'p' = false → k.commands 'l' = false →
        (b.handleKey k now).app.config = b.config ∧ (b.handleKey k now).app.store = b.store ∧
          (b.handleKey k now).saved = []) ∧
      (k.commands 'p' = true ∨ k.commands 'l' = true →
        (b.handleKey k now).saved = [(b.handleKey k now).app.config]) := by
  intro presets languages language
  have hb : a.Advances presets languages b := by
    have hadvances := h.advances.run hrun
    rwa [Nat.zero_add, Nat.zero_add] at hadvances
  have hembedded : 0 < languages → b.config.language = language ∧
      b.practice.subject = .of (.embedded language) (.embedded language) b.practice.preset := by
    intro hpos
    obtain ⟨l, hl, hsubject⟩ := hb.embedded hpos
    have hsource : b.practice.source = .embedded l := congrArg Subject.source hsubject
    have hlanguage : l = language := by
      rw [← Snippet.embedded_language l, ← hsource]
      exact hb.language
    rw [hl, hsubject, ← hlanguage]
    exact ⟨rfl, rfl⟩
  refine ⟨hb.preset_eq, hb.preset, hb.language, ?_, fun hpos => ?_, hb.store_eq,
    fun fs gs path => loadConfig_loop hrun, fun k now => ?_⟩
  · split
    · next hzero => exact hb.kept hzero
    · next hpos => exact (hembedded (Nat.pos_of_ne_zero hpos)).1
  · have hsubject := (hembedded hpos).2
    have hinfo : b.practice.info = .embedded language := congrArg Subject.info hsubject
    exact ⟨hsubject, congrArg SnippetInfo.id hinfo⟩
  · refine ⟨fun hc => handleKey_quit hc b now, fun hc => (handleKey_adjusts hc b now).1,
      fun hp hl => ?_, fun h => saved_handleKey h b now⟩
    cases hc : k.commands 'c' with
    | true => rw [handleKey_quit hc]; exact ⟨rfl, rfl, rfl⟩
    | false => rw [handleKey_session hc hp hl]; exact ⟨rfl, rfl, rfl⟩

/-- An app on a snippet in Python whose configuration says TSX. One of the presses for the mode
holds Shift besides and comes during a test; the release of the key counts for nothing. -/
theorem inStep_run_mixed :
    let command := fun c kind => Input.key ⟨.char c, { control := true }, kind⟩
    let a : App := {
      practice := .begin (.ofWords ["x y"]) {} .minimal 50 none
      config := ⟨.minimal, .tsx⟩
      store := ⟨⟨.minimal, .tsx⟩, true⟩ }
    ∃ b, a.run [(command 'p' .press, 1), (.key (.plain 'x'), 2),
        (.key ⟨.char 'p', { control := true, shift := true }, .press⟩, 3),
        (command 'p' .release, 4), (command 'l' .press, 5), (.tick, 6)] = some b ∧
      b.practice.preset = .full ∧ b.config = ⟨.full, .javascript⟩ ∧ b.store.config = b.config ∧
      b.practice.info.id = some "javascript-default" ∧
      (b.handleKey ⟨.char 'c', { control := true }, .press⟩ 7).running = false := by
  intro command a
  have hstart : a.InStep := ⟨rfl, rfl⟩
  obtain ⟨b, hrun⟩ : ∃ b, a.run [(command 'p' .press, 1), (.key (.plain 'x'), 2),
      (.key ⟨.char 'p', { control := true, shift := true }, .press⟩, 3),
      (command 'p' .release, 4), (command 'l' .press, 5), (.tick, 6)] = some b := ⟨_, rfl⟩
  obtain ⟨hpreset, hmode, hlanguage, hconfigured, hembedded, hstore, -, hkeys⟩ :=
    inStep_run hstart hrun
  have hfull : b.practice.preset = .full := hmode
  have hjavascript : b.config.language = .javascript := hconfigured
  refine ⟨b, hrun, hfull, ?_, by rw [hstore], ?_, ?_⟩
  · calc b.config = ⟨b.config.preset, b.config.language⟩ := rfl
      _ = ⟨.full, .javascript⟩ := by rw [hpreset, hfull, hjavascript]
  · exact (hembedded (by decide)).2
  · rw [(hkeys _ 7).1 (by decide)]

end App

end TypingTrainer
