import TypingTrainer.Proofs.History
import Mathlib.Data.List.Chain

namespace TypingTrainer

def Event.pause? : Event → Option Bool
  | .pauseToggled paused => some paused
  | _ => none

def Event.isInner : Event → Bool
  | .charTyped _ | .lineCompleted | .pauseToggled _ => true
  | .testStarted | .testCompleted | .resetRequested => false

def pauses (events : List Event) : List Bool := events.filterMap Event.pause?

/-- The order in which the events of one session come. -/
structure Orderly (events : List Event) : Prop where
  shape : events = [] ∨ ∃ inner ending, events = .testStarted :: inner ++ ending ∧
    (∀ e ∈ inner, e.isInner = true) ∧ (ending = [] ∨ ending = [.testCompleted])
  alternate : (pauses events).IsChain (· ≠ ·)
  first_pause : ∀ paused, (pauses events).head? = some paused → paused = true
  quiet : ∀ before between after correct,
    events = before ++ .pauseToggled true :: between ++ .charTyped correct :: after →
    .pauseToggled false ∈ between

def phaseAfter (events : List Event) : Phase :=
  if events = [] then .idle
  else if .testCompleted ∈ events then .complete
  else if (pauses events).getLast? = some true then .paused
  else .running

variable {events : List Event} {e : Event}

theorem pauses_concat (events : List Event) (e : Event) :
    pauses (events ++ [e]) = pauses events ++ e.pause?.toList := by
  cases h : e.pause? <;> simp [pauses, h]

theorem phaseAfter_open (hne : events ≠ []) (hopen : .testCompleted ∉ events) :
    phaseAfter events = if (pauses events).getLast? = some true then .paused else .running := by
  rw [phaseAfter, if_neg hne, if_neg hopen]

theorem eq_nil_of_idle (h : phaseAfter events = .idle) : events = [] := by
  by_contra hne
  rw [phaseAfter, if_neg hne] at h
  split at h
  · cases h
  · split at h <;> cases h

theorem open_of_phase (h : phaseAfter events = .running ∨ phaseAfter events = .paused) :
    events ≠ [] ∧ .testCompleted ∉ events := by
  constructor
  · rintro rfl
    rcases h with h | h <;> cases h
  · intro hmem
    have hne : events ≠ [] := List.ne_nil_of_mem hmem
    rw [phaseAfter, if_neg hne, if_pos hmem] at h
    rcases h with h | h <;> cases h

theorem getLast?_of_paused (h : phaseAfter events = .paused) :
    (pauses events).getLast? = some true := by
  obtain ⟨hne, hopen⟩ := open_of_phase (.inr h)
  rw [phaseAfter_open hne hopen] at h
  by_contra hlast
  rw [if_neg hlast] at h
  cases h

theorem getLast?_of_running (h : phaseAfter events = .running) :
    (pauses events).getLast? ≠ some true := by
  obtain ⟨hne, hopen⟩ := open_of_phase (.inl h)
  rw [phaseAfter_open hne hopen] at h
  intro hlast
  rw [if_pos hlast] at h
  cases h

theorem resumed_of_getLast? {before between : List Event}
    (h : (pauses (before ++ .pauseToggled true :: between)).getLast? ≠ some true) :
    .pauseToggled false ∈ between := by
  have hsplit : pauses (before ++ .pauseToggled true :: between) =
      pauses before ++ true :: pauses between := by
    simp [pauses, Event.pause?]
  rw [hsplit, List.getLast?_append, List.getLast?_cons, Option.some_or] at h
  cases hlast : (pauses between).getLast? with
  | none =>
      rw [hlast] at h
      exact absurd rfl h
  | some paused =>
      rw [hlast] at h
      have hfalse : paused = false := by simpa using h
      subst hfalse
      obtain ⟨e, he, hpause⟩ := List.mem_filterMap.1 (List.mem_of_getLast? hlast)
      cases e with
      | pauseToggled paused =>
          obtain rfl : paused = false := Option.some.inj hpause
          exact he
      | testStarted | charTyped | lineCompleted | testCompleted | resetRequested =>
          exact nomatch hpause

theorem Orderly.quiet_concat (h : Orderly events)
    (htyped : ∀ correct, e = .charTyped correct → (pauses events).getLast? ≠ some true)
    (before between after : List Event) (correct : Bool)
    (heq : events ++ [e] =
      before ++ .pauseToggled true :: between ++ .charTyped correct :: after) :
    .pauseToggled false ∈ between := by
  -- the typed key is the new event, or it stands before it
  rcases List.eq_nil_or_concat' after with rfl | ⟨after, last, rfl⟩
  · obtain ⟨hevents, he⟩ := List.append_inj' heq rfl
    rw [hevents] at htyped
    exact resumed_of_getLast? (htyped correct (List.cons.inj he).1)
  · rw [← List.cons_append, ← List.append_assoc] at heq
    exact h.quiet before between after correct (List.append_inj' heq rfl).1

theorem Orderly.shape_open (h : Orderly events) (hne : events ≠ [])
    (hopen : .testCompleted ∉ events) :
    ∃ inner, events = .testStarted :: inner ∧ ∀ e ∈ inner, e.isInner = true := by
  obtain ⟨inner, ending, heq, hinner, hend⟩ := h.shape.resolve_left hne
  rcases hend with rfl | rfl
  · exact ⟨inner, heq.trans (List.append_nil _), hinner⟩
  · rw [heq] at hopen
    exact absurd (by simp) hopen

theorem orderly_nil : Orderly [] where
  shape := .inl rfl
  alternate := .nil
  first_pause := by simp [pauses]
  quiet := by
    intro before between after correct heq
    simp at heq

theorem orderly_start : Orderly [.testStarted] where
  shape := .inr ⟨[], [], rfl, by simp, .inl rfl⟩
  alternate := .nil
  first_pause := by simp [pauses, Event.pause?]
  quiet := by
    intro before between after correct heq
    have hmem : Event.pauseToggled true ∈ [Event.testStarted] := by
      rw [heq]
      simp
    simp at hmem

/-- Between start and end a key may only be typed while no pause is open, and a toggle of the pause
says the other thing than the one before it. -/
theorem Orderly.inner (h : Orderly events) (hne : events ≠ []) (hopen : .testCompleted ∉ events)
    (he : e.isInner = true)
    (hpause : ∀ paused, e.pause? = some paused →
      (paused = true ↔ (pauses events).getLast? ≠ some true))
    (htyped : ∀ correct, e = .charTyped correct → (pauses events).getLast? ≠ some true) :
    Orderly (events ++ [e]) := by
  obtain ⟨inner, hevents, hinner⟩ := h.shape_open hne hopen
  refine ⟨.inr ⟨inner ++ [e], [], by simp [hevents], ?_, .inl rfl⟩, ?_, ?_, h.quiet_concat htyped⟩
  · intro d hd
    rcases List.mem_append.1 hd with hd | hd
    · exact hinner d hd
    · rw [List.mem_singleton.1 hd]
      exact he
  · rw [pauses_concat]
    cases hp : e.pause? with
    | none => simpa using h.alternate
    | some paused =>
        refine List.isChain_append.2 ⟨h.alternate, .singleton _, fun x hx y hy => ?_⟩
        obtain rfl : paused = y := Option.some.inj hy
        have hlast : (pauses events).getLast? = some x := hx
        rintro rfl
        have hiff := hpause x hp
        rw [hlast] at hiff
        cases x <;> simp at hiff
  · intro first hfirst
    rw [pauses_concat, List.head?_append] at hfirst
    cases hhead : (pauses events).head? with
    | some x =>
        rw [hhead, Option.some_or] at hfirst
        exact h.first_pause first (hhead.trans hfirst)
    | none =>
        have hnil : pauses events = [] := List.head?_eq_none_iff.1 hhead
        rw [hhead, Option.none_or] at hfirst
        cases hp : e.pause? with
        | none =>
            rw [hp] at hfirst
            exact nomatch hfirst
        | some paused =>
            rw [hp] at hfirst
            obtain rfl : paused = first := Option.some.inj hfirst
            exact (hpause paused hp).2 (by simp [hnil])

theorem phaseAfter_inner (hopen : .testCompleted ∉ events) (he : e.isInner = true) :
    phaseAfter (events ++ [e]) =
      if (pauses events ++ e.pause?.toList).getLast? = some true then .paused else .running := by
  have hend : .testCompleted ∉ [e] := by
    intro hmem
    rw [← List.mem_singleton.1 hmem] at he
    exact nomatch he
  rw [phaseAfter_open (by simp) (List.not_mem_append hopen hend), pauses_concat]

theorem Orderly.concat_char (h : Orderly events) (hp : phaseAfter events = .running)
    (correct : Bool) :
    Orderly (events ++ [.charTyped correct]) ∧
      phaseAfter (events ++ [.charTyped correct]) = .running := by
  obtain ⟨hne, hopen⟩ := open_of_phase (.inl hp)
  have hlast := getLast?_of_running hp
  refine ⟨h.inner hne hopen rfl (fun _ hb => nomatch hb) (fun _ _ => hlast), ?_⟩
  rw [phaseAfter_inner hopen rfl]
  simp [Event.pause?, hlast]

theorem Orderly.concat_line (h : Orderly events)
    (hp : phaseAfter events = .running ∨ phaseAfter events = .paused) :
    Orderly (events ++ [.lineCompleted]) ∧
      phaseAfter (events ++ [.lineCompleted]) = phaseAfter events := by
  obtain ⟨hne, hopen⟩ := open_of_phase hp
  refine ⟨h.inner hne hopen rfl (fun _ hb => nomatch hb) (fun _ hc => nomatch hc), ?_⟩
  rw [phaseAfter_inner hopen rfl, phaseAfter_open hne hopen]
  simp [Event.pause?]

theorem Orderly.concat_pause (h : Orderly events) (hp : phaseAfter events = .running) :
    Orderly (events ++ [.pauseToggled true]) ∧
      phaseAfter (events ++ [.pauseToggled true]) = .paused := by
  obtain ⟨hne, hopen⟩ := open_of_phase (.inl hp)
  have hlast := getLast?_of_running hp
  refine ⟨h.inner hne hopen rfl ?_ (fun _ hc => nomatch hc), ?_⟩
  · intro paused hpaused
    obtain rfl : true = paused := Option.some.inj hpaused
    exact iff_of_true rfl hlast
  · rw [phaseAfter_inner hopen rfl]
    simp [Event.pause?]

theorem Orderly.concat_resume (h : Orderly events) (hp : phaseAfter events = .paused) :
    Orderly (events ++ [.pauseToggled false]) ∧
      phaseAfter (events ++ [.pauseToggled false]) = .running := by
  obtain ⟨hne, hopen⟩ := open_of_phase (.inr hp)
  have hlast := getLast?_of_paused hp
  refine ⟨h.inner hne hopen rfl ?_ (fun _ hc => nomatch hc), ?_⟩
  · intro paused hpaused
    obtain rfl : false = paused := Option.some.inj hpaused
    exact iff_of_false Bool.false_ne_true (not_not_intro hlast)
  · rw [phaseAfter_inner hopen rfl]
    simp [Event.pause?]

theorem Orderly.concat_end (h : Orderly events)
    (hp : phaseAfter events = .running ∨ phaseAfter events = .paused) :
    Orderly (events ++ [.testCompleted]) ∧
      phaseAfter (events ++ [.testCompleted]) = .complete := by
  obtain ⟨hne, hopen⟩ := open_of_phase hp
  obtain ⟨inner, hevents, hinner⟩ := h.shape_open hne hopen
  have hpauses : pauses (events ++ [.testCompleted]) = pauses events := by
    simp [pauses_concat, Event.pause?]
  constructor
  · refine ⟨.inr ⟨inner, [.testCompleted], by simp [hevents], hinner, .inr rfl⟩, ?_, ?_, ?_⟩
    · rw [hpauses]
      exact h.alternate
    · rw [hpauses]
      exact h.first_pause
    · exact h.quiet_concat fun correct he => nomatch he
  · rw [phaseAfter, if_neg (by simp), if_pos (by simp)]

/-- Events cut into sessions: those that are over, and those of the present one. -/
structure Transcript where
  past : List (List Event) := []
  present : List Event := []
  deriving DecidableEq

namespace Transcript

def notify (t : Transcript) (e : Event) : Transcript :=
  if e = .resetRequested then ⟨t.past ++ [t.present ++ [e]], []⟩
  else { t with present := t.present ++ [e] }

def cut (t : Transcript) : Transcript := ⟨t.past ++ [t.present], []⟩

def all (t : Transcript) : List Event := t.past.flatten ++ t.present

theorem all_notify (t : Transcript) (e : Event) : (t.notify e).all = t.all ++ [e] := by
  unfold notify
  split <;> simp [all]

theorem all_foldl_notify (t : Transcript) (es : List Event) :
    (es.foldl notify t).all = t.all ++ es := by
  induction es generalizing t with
  | nil => simp
  | cons e es ih => rw [List.foldl_cons, ih, all_notify, List.append_assoc, List.singleton_append]

theorem all_cut (t : Transcript) : t.cut.all = t.all := by
  simp [cut, all]

end Transcript

namespace Practice

variable {p q : Practice} {a : Action} {es : List Event} {cs : List Call} {now : Instant}
variable {t : Transcript}

def Action.cuts : Action → Bool
  | .reset | .replaceSnippet _ _ => true
  | _ => false

def seeEvents : Observer Transcript := fun _ a _ es t =>
  if a.cuts then (es.foldl Transcript.notify t).cut else es.foldl Transcript.notify t

def transcript (p : Practice) (actions : List Action) : Transcript :=
  p.observe seeEvents {} actions

theorem all_observe (p : Practice) (t : Transcript) (actions : List Action) :
    (p.observe seeEvents t actions).all = t.all ++ (p.run actions).events := by
  induction actions generalizing p t with
  | nil => simp [observe, run]
  | cons a rest ih =>
      have hstep : (seeEvents p a (p.step a).practice (p.step a).events t).all =
          t.all ++ (p.step a).events := by
        unfold seeEvents
        split
        · rw [Transcript.all_cut, Transcript.all_foldl_notify]
        · rw [Transcript.all_foldl_notify]
      rw [observe, ih, hstep, List.append_assoc]
      rfl

/-- The present session is orderly, and phase and counters of the practice are those that its events
tell; so was every session before it, but for a reset request at its end. -/
structure Told (p : Practice) (t : Transcript) : Prop where
  past : ∀ events ∈ t.past,
    Orderly events ∨ ∃ session, events = session ++ [.resetRequested] ∧ Orderly session
  present : Orderly t.present
  phase_eq : p.phase = phaseAfter t.present
  typed_eq : p.session.typed = t.present.count (.charTyped true)
  errors_eq : p.session.errors = t.present.count (.charTyped false)

theorem Told.kept (h : p.Told t) (hphase : q.phase = p.phase)
    (htyped : q.session.typed = p.session.typed)
    (herrors : q.session.errors = p.session.errors) : q.Told t :=
  ⟨h.past, h.present, hphase.trans h.phase_eq, htyped.trans h.typed_eq,
    herrors.trans h.errors_eq⟩

theorem Told.notify {e : Event} (h : p.Told t) (hreset : e ≠ .resetRequested)
    (he : Orderly (t.present ++ [e]) ∧ phaseAfter (t.present ++ [e]) = q.phase)
    (htyped : q.session.typed = p.session.typed + [e].count (.charTyped true))
    (herrors : q.session.errors = p.session.errors + [e].count (.charTyped false)) :
    q.Told (t.notify e) := by
  rw [Transcript.notify, if_neg hreset]
  refine ⟨h.past, he.1, he.2.symm, ?_, ?_⟩
  · rw [htyped, h.typed_eq, List.count_append]
  · rw [herrors, h.errors_eq, List.count_append]

theorem Told.fresh {session : List Event} (h : p.Told t)
    (hsession : Orderly session ∨ ∃ told, session = told ++ [.resetRequested] ∧ Orderly told)
    (hphase : q.phase = .idle) (htyped : q.session.typed = 0) (herrors : q.session.errors = 0) :
    q.Told ⟨t.past ++ [session], []⟩ := by
  refine ⟨?_, orderly_nil, hphase, htyped, herrors⟩
  intro events hmem
  rcases List.mem_append.1 hmem with hmem | hmem
  · exact h.past events hmem
  · rw [List.mem_singleton.1 hmem]
    exact hsession

theorem Action.cuts_of_time (h : a.time? = some now) : a.cuts = false := by
  cases a with
  | key | poll | completeLine | togglePause | setPreset => rfl
  | reset | replaceSnippet => cases h

theorem seeEvents_quiet (h : a.time? = some now) : seeEvents p a q [] t = t := by
  rw [seeEvents, Action.cuts_of_time h]
  rfl

theorem seeEvents_one (h : a.time? = some now) (e : Event) :
    seeEvents p a q [e] t = t.notify e := by
  rw [seeEvents, Action.cuts_of_time h]
  rfl

theorem Leaves.typed_eq (h : p.Leaves a now q) : q.session.typed = p.session.typed := by
  cases h <;> rfl

theorem Leaves.errors_eq (h : p.Leaves a now q) : q.session.errors = p.session.errors := by
  cases h <;> rfl

theorem Told.running_or_paused (ht : p.Told t) (h : p.Leaves a now q) :
    phaseAfter t.present = .running ∨ phaseAfter t.present = .paused := by
  rw [← ht.phase_eq]
  exact h.running_or_paused

theorem Told.move (hs : p.Sound) (ht : p.Told t) (h : Move p a q es cs) :
    q.Told (seeEvents p a q es t) := by
  have hphase : phaseAfter t.present = p.phase := ht.phase_eq.symm
  cases h with
  | start k now ha h =>
      have hq : (p.started now).phase = .running := hs.phase_start h now
      have hnil : t.present = [] := eq_nil_of_idle (hphase.trans h)
      rw [seeEvents_one (congrArg _ ha)]
      refine ht.notify nofun ?_ rfl rfl
      rw [hnil]
      exact ⟨orderly_start, hq.symm⟩
  | hit k now ha l c h =>
      obtain ⟨horderly, hrunning⟩ := ht.present.concat_char (hphase.trans h) true
      rw [seeEvents_one (congrArg _ ha)]
      exact ht.notify nofun ⟨horderly, hrunning.trans h.symm⟩ rfl rfl
  | miss k now ha l c h =>
      obtain ⟨horderly, hrunning⟩ := ht.present.concat_char (hphase.trans h) false
      rw [seeEvents_one (congrArg _ ha)]
      exact ht.notify nofun ⟨horderly, hrunning.trans h.symm⟩ rfl rfl
  | pause now ha h =>
      obtain ⟨horderly, hpaused⟩ := ht.present.concat_pause (hphase.trans h)
      rw [seeEvents_one ha]
      exact ht.notify nofun ⟨horderly, hpaused.trans (phase_pause h now).symm⟩ rfl rfl
  | resume now ha h =>
      obtain ⟨horderly, hrunning⟩ := ht.present.concat_resume (hphase.trans h)
      rw [seeEvents_one ha]
      exact ht.notify nofun ⟨horderly, hrunning.trans (phase_resume h now).symm⟩ rfl rfl
  | nextLine now q hq =>
      obtain ⟨horderly, hsame⟩ := ht.present.concat_line (ht.running_or_paused hq)
      rw [seeEvents_one hq.time]
      exact ht.notify nofun ⟨horderly, hsame.trans (hphase.trans hq.phase_eq.symm)⟩ hq.typed_eq
        hq.errors_eq
  | finish now q hq =>
      have hcomplete : (q.conclude now).practice.phase = .complete :=
        Session.phase_eq_complete.2 rfl
      obtain ⟨horderly, hover⟩ := ht.present.concat_end (ht.running_or_paused hq)
      rw [seeEvents_one hq.time]
      exact ht.notify nofun ⟨horderly, hover.trans hcomplete.symm⟩ hq.typed_eq hq.errors_eq
  | forget now hc =>
      rw [seeEvents_quiet hc.time]
      exact ht.kept rfl rfl rfl
  | resetKey k now ha =>
      subst ha
      exact ht.fresh (.inr ⟨t.present, rfl, ht.present⟩) rfl rfl rfl
  | reset ha | replace _ _ ha =>
      subst ha
      exact ht.fresh (.inl ht.present) rfl rfl rfl
  | switchIdle preset now ha h | switch preset now ha h =>
      subst ha
      exact ht.kept rfl rfl rfl

theorem cuts_of_not_startsOver (h : p.startsOver a = false) : a.cuts = false := by
  cases a with
  | key | poll | completeLine | togglePause | setPreset => rfl
  | reset | replaceSnippet => cases h

theorem tracks_told : Tracks seeEvents Told where
  still := by
    intro p a t ht hover _
    rw [seeEvents, cuts_of_not_startsOver hover]
    exact ht
  move hs ht h := ht.move hs h
  start _ _ _ := rfl

/-- In every run the events of a session come in order, and counters and phase are the ones that the
events of the present session tell. -/
theorem transcript_run (source : Snippet) (info : SnippetInfo) (preset : Preset)
    (settleDelay : Duration) (recorder : Option Recorder) (actions : List Action) :
    let fresh := begin source info preset settleDelay recorder
    let p := (fresh.run actions).practice
    let t := fresh.transcript actions
    t.past.flatten ++ t.present = (fresh.run actions).events ∧
    (∀ events ∈ t.past,
      Orderly events ∨ ∃ session, events = session ++ [.resetRequested] ∧ Orderly session) ∧
    Orderly t.present ∧
    p.session.typed = t.present.count (.charTyped true) ∧
    p.session.errors = t.present.count (.charTyped false) ∧
    p.phase = phaseAfter t.present := by
  intro fresh p t
  have hs : fresh.Sound := begin_sound source info preset settleDelay recorder
  have hsession : fresh.session = _ := begin_session ..
  have hfresh : fresh.Told {} := by
    refine ⟨by simp, orderly_nil, ?_, ?_, ?_⟩
    · rw [phase, hsession]
      rfl
    · rw [hsession]
      rfl
    · rw [hsession]
      rfl
  have ht : p.Told t := tracks_told.run hs hfresh actions
  have hall : t.all = (fresh.run actions).events := all_observe fresh {} actions
  exact ⟨hall, ht.past, ht.present, ht.typed_eq, ht.errors_eq, ht.phase_eq⟩

/-- A test that a switch of the mode finishes while it is paused, one that is reset by key, an idle
practice that is reset, and a test under way. -/
theorem transcript_run_sessions :
    let tokens := [Token.ofText "a" "identifier" [.identifier] 0,
      .ofText "=" "operator" [.operator] 0]
    let fresh := begin (.ofTokens tokens) {} .full 50 none
    let actions : List Action := [.key (.plain 'x') 5, .key (.plain 'a') 10, .poll 60,
      .togglePause 70, .setPreset .minimal 80, .key (.plain 'q') 90, .reset, .setPreset .full 95,
      .key (.plain 'a') 100, .key { code := Key.resetCode } 110, .reset, .key (.plain 'a') 120]
    let p := (fresh.run actions).practice
    fresh.transcript actions =
      ⟨[[.testStarted, .charTyped false, .charTyped true, .lineCompleted, .pauseToggled true,
          .testCompleted],
        [.testStarted, .charTyped true, .resetRequested], []],
        [.testStarted, .charTyped true]⟩ ∧
      Orderly [.testStarted, .charTyped true] ∧
      p.session.typed = 1 ∧ p.session.errors = 0 ∧ p.phase = .running := by
  have h := transcript_run (.ofTokens [.ofText "a" "identifier" [.identifier] 0,
      .ofText "=" "operator" [.operator] 0]) {} .full 50 none
    [.key (.plain 'x') 5, .key (.plain 'a') 10, .poll 60, .togglePause 70, .setPreset .minimal 80,
      .key (.plain 'q') 90, .reset, .setPreset .full 95, .key (.plain 'a') 100,
      .key { code := Key.resetCode } 110, .reset, .key (.plain 'a') 120]
  obtain ⟨-, -, hpresent, htyped, herrors, hphase⟩ := h
  exact ⟨by decide +kernel, hpresent, htyped.trans (by decide +kernel),
    herrors.trans (by decide +kernel), hphase.trans (by decide +kernel)⟩

end Practice

end TypingTrainer
