import TypingTrainer.Proofs.Moves

namespace TypingTrainer.Practice

abbrev Timeline := List (Instant × Phase)

/-- The total length, up to `now`, of the stretches of a timeline with phase running. -/
def Timeline.running : Timeline → Instant → Int
  | [], _ => 0
  | [(t, phase)], now => if phase = .running then now - t else 0
  | (t, phase) :: (t', phase') :: rest, now =>
    (if phase = .running then t' - t else 0) + running ((t', phase') :: rest) now

def Timeline.kept (past : Timeline) (events : List Event) : Timeline :=
  if .testStarted ∈ events then [] else past

def extend (p : Practice) (past : Timeline) (a : Action) : Timeline :=
  match a.time? with
  | some t => past.kept (p.step a).events ++ [(t, (p.step a).practice.phase)]
  | none => past.kept (p.step a).events

def extendRun (p : Practice) (past : Timeline) : List Action → Timeline
  | [] => past
  | a :: rest => (p.step a).practice.extendRun (p.extend past a) rest

/-- What a run leaves behind of its last test: its timeline since `testStarted`. -/
def timeline (p : Practice) (actions : List Action) : Timeline := p.extendRun [] actions

def times (actions : List Action) : List Instant := actions.filterMap Action.time?

variable {p q : Practice} {a : Action} {es : List Event} {cs : List Call} {t now ran : Int}

theorem running_concat (past : Timeline) (t : Instant) (phase : Phase) (now : Instant) :
    Timeline.running (past ++ [(t, phase)]) now =
      past.running t + if phase = .running then now - t else 0 := by
  induction past with
  | nil => simp [Timeline.running]
  | cons e past ih =>
      cases past with
      | nil => simp [Timeline.running]
      | cons e' past =>
          simp only [List.cons_append, Timeline.running] at ih ⊢
          rw [ih, Int.add_assoc]

theorem running_kept (past : Timeline) (events : List Event) (now : Instant) :
    (past.kept events).running now =
      if .testStarted ∈ events then 0 else past.running now := by
  unfold Timeline.kept
  split <;> rfl

def openPause (p : Practice) (now : Instant) : Duration :=
  (p.session.pausedAt.map (Clock.between · now)).getD 0

/-- At `t` the fields of the session account for `ran` nanoseconds of running time: the start, the
pauses that are over and the running time add up to the present, to the start of the open pause, or
to the end. -/
def Clocked (p : Practice) (ran t : Int) : Prop :=
  0 ≤ ran ∧ match p.phase with
    | .idle => p.session.pausedAt = none ∧ p.session.pausedTotal = 0
    | .running => p.session.pausedAt = none ∧
      ∃ s : Int, p.session.startedAt = some s ∧ s + (p.session.pausedTotal : Int) + ran = t
    | .paused => ∃ s u : Int, p.session.startedAt = some s ∧ p.session.pausedAt = some u ∧ u ≤ t ∧
      s + (p.session.pausedTotal : Int) + ran = u
    | .complete => ∃ (r : Result) (s e : Int), p.result = some r ∧ p.session.startedAt = some s ∧
      p.session.endedAt = some e ∧ r.elapsed = ⟨Clock.between s e, p.session.pausedTotal, 0⟩ ∧
      s + (p.session.pausedTotal : Int) + ran = e

theorem clocked_idle (hp : p.phase = .idle) : p.Clocked ran t ↔
    0 ≤ ran ∧ p.session.pausedAt = none ∧ p.session.pausedTotal = 0 := by
  rw [Clocked, hp]

theorem clocked_running (hp : p.phase = .running) : p.Clocked ran t ↔
    0 ≤ ran ∧ p.session.pausedAt = none ∧
      ∃ s : Int, p.session.startedAt = some s ∧ s + (p.session.pausedTotal : Int) + ran = t := by
  rw [Clocked, hp]

theorem clocked_paused (hp : p.phase = .paused) : p.Clocked ran t ↔
    0 ≤ ran ∧ ∃ s u : Int, p.session.startedAt = some s ∧ p.session.pausedAt = some u ∧ u ≤ t ∧
      s + (p.session.pausedTotal : Int) + ran = u := by
  rw [Clocked, hp]

theorem clocked_complete (hp : p.phase = .complete) : p.Clocked ran t ↔
    0 ≤ ran ∧ ∃ (r : Result) (s e : Int), p.result = some r ∧ p.session.startedAt = some s ∧
      p.session.endedAt = some e ∧ r.elapsed = ⟨Clock.between s e, p.session.pausedTotal, 0⟩ ∧
      s + (p.session.pausedTotal : Int) + ran = e := by
  rw [Clocked, hp]

theorem Clocked.later (hi : p.Clocked ran t) (h : t ≤ now) :
    p.Clocked (ran + if p.phase = .running then now - t else 0) now := by
  cases hp : p.phase with
  | idle => simpa [clocked_idle hp] using hi
  | running =>
      obtain ⟨hran, hnone, s, hs, hsum⟩ := (clocked_running hp).1 hi
      rw [if_pos rfl]
      exact (clocked_running hp).2 ⟨by omega, hnone, s, hs, by omega⟩
  | paused =>
      obtain ⟨hran, s, u, hs, hu, hle, hsum⟩ := (clocked_paused hp).1 hi
      simpa using (clocked_paused hp).2 ⟨hran, s, u, hs, hu, Int.le_trans hle h, hsum⟩
  | complete => simpa [clocked_complete hp] using hi

theorem Clocked.accounts (hi : p.Clocked ran now) (hp : p.phase = .running ∨ p.phase = .paused) :
    0 ≤ ran ∧ ∃ s : Int, p.session.startedAt = some s ∧
      s + (p.session.pausedTotal : Int) + (p.openPause now : Int) + ran = now := by
  rcases hp with hp | hp
  · obtain ⟨hran, hnone, s, hs, hsum⟩ := (clocked_running hp).1 hi
    exact ⟨hran, s, hs, by simpa [openPause, hnone] using hsum⟩
  · obtain ⟨hran, s, u, hs, hu, hle, hsum⟩ := (clocked_paused hp).1 hi
    have hopen : (p.openPause now : Int) = now - u := by
      rw [openPause, hu]
      exact Int.toNat_of_nonneg (by omega)
    exact ⟨hran, s, hs, by omega⟩

theorem Clocked.leaves (hi : p.Clocked ran now) (hq : p.Leaves a now q) : q.Clocked ran now := by
  cases hq <;> exact hi

theorem Clocked.conclude (hi : p.Clocked ran now)
    (hp : p.phase = .running ∨ p.phase = .paused) :
    (p.conclude now).practice.Clocked ran now := by
  obtain ⟨hran, s, hs, hsum⟩ := hi.accounts hp
  have hactive := (active_of_phase hp).2
  refine (clocked_complete (Session.phase_eq_complete.2 rfl)).2
    ⟨hran, _, s, now, rfl, hs, rfl, ?_, ?_⟩
  · simp [Practice.conclude, finish, Session.closePause, Session.reading, Session.moveOn, hactive,
      hs]
  · simp only [Practice.conclude, finish, Session.closePause, Session.moveOn]
    unfold openPause at hsum
    omega

theorem Clocked.move (hs : p.Sound) (hi : p.Clocked ran t) (ht : ∀ u, a.time? = some u → u = t)
    (h : Move p a q es cs) : q.Clocked (if .testStarted ∈ es then 0 else ran) t := by
  cases h with
  | start k now ha h =>
      obtain ⟨hran, hnone, htotal⟩ := (clocked_idle h).1 hi
      obtain rfl : now = t := ht now (by rw [ha]; rfl)
      refine (clocked_running (hs.phase_start h now)).2 ⟨by simp, hnone, now, rfl, ?_⟩
      simp [Session.start, htotal]
  | hit | miss | forget | switch => exact hi
  | pause now ha h =>
      obtain ⟨hran, hnone, s, hs, hsum⟩ := (clocked_running h).1 hi
      obtain rfl : now = t := ht now ha
      exact (clocked_paused (phase_pause h now)).2 ⟨hran, s, now, hs, rfl, Int.le_refl _, hsum⟩
  | resume now ha h =>
      obtain rfl : now = t := ht now ha
      obtain ⟨hran, s, hs, hsum⟩ := hi.accounts (.inr h)
      refine (clocked_running (phase_resume h now)).2 ⟨hran, rfl, s, hs, ?_⟩
      simpa [Session.closePause, openPause, Int.add_assoc] using hsum
  | nextLine now q hq h =>
      obtain rfl : now = t := ht now hq.time
      have hleft := hi.leaves hq
      exact hleft
  | finish now q hq h =>
      obtain rfl : now = t := ht now hq.time
      exact (hi.leaves hq).conclude (hq.phase_eq ▸ hq.running_or_paused)
  | resetKey | reset | replace => exact (clocked_idle rfl).2 ⟨hi.1, rfl, rfl⟩
  | switchIdle preset now _ h =>
      exact (clocked_idle h).2 ((clocked_idle h).1 hi)

theorem Moves.clocked (h : Moves a p q es cs) (hs : p.Sound) (hi : p.Clocked ran t)
    (ht : ∀ u, a.time? = some u → u = t) :
    q.Clocked (if .testStarted ∈ es then 0 else ran) t := by
  induction h generalizing ran with
  | refl p => exact hi
  | @head p q r es fs cs ds hm _ ih =>
      have hlast := ih (hm.sound hs) (hi.move hs ht hm)
      by_cases hes : Event.testStarted ∈ es <;> by_cases hfs : Event.testStarted ∈ fs <;>
        simpa [hes, hfs] using hlast

theorem run_clocked {actions : List Action} {past : Timeline} (hs : p.Sound)
    (hsorted : (times actions ++ [now]).Pairwise (· ≤ ·))
    (hi : ∀ u ∈ times actions ++ [now], p.Clocked (past.running u) u) :
    (p.run actions).practice.Clocked ((p.extendRun past actions).running now) now := by
  induction actions generalizing p past with
  | nil => exact hi now (by simp)
  | cons a rest ih =>
      have hstep (u : Int) (hu : p.Clocked (past.running u) u)
          (ht : ∀ v, a.time? = some v → v = u) :
          (p.step a).practice.Clocked ((past.kept (p.step a).events).running u) u := by
        rw [running_kept]
        exact (moves_step p hs a).clocked hs hu ht
      cases ht : a.time? with
      | none =>
          have htimes : times (a :: rest) = times rest := List.filterMap_cons_none ht
          rw [htimes] at hsorted hi
          -- a step without a time can start no test: it goes with whatever instant comes next
          refine ih (step_sound hs a) hsorted fun u hu => ?_
          rw [extend, ht]
          exact hstep u (hi u hu) (by simp [ht])
      | some t =>
          have htimes : times (a :: rest) = t :: times rest := List.filterMap_cons_some ht
          rw [htimes, List.cons_append] at hsorted hi
          obtain ⟨hle, hsorted⟩ := List.pairwise_cons.1 hsorted
          refine ih (step_sound hs a) hsorted fun u hu => ?_
          have hnow := hstep t (hi t (by simp)) (by simp [ht])
          rw [extend, ht, running_concat]
          exact hnow.later (hle u hu)

theorem duration_of_sum {s : Int} {paused openPause : Duration} (hran : 0 ≤ ran)
    (h : s + (paused : Int) + (openPause : Int) + ran = now) :
    ((⟨Clock.between s now, paused, openPause⟩ : Clock.Reading).duration : Int) = ran := by
  simp only [Clock.Reading.duration_eq_sub, Clock.between]
  omega

theorem Clocked.duration_elapsed (hi : p.Clocked ran now)
    (hp : p.phase = .running ∨ p.phase = .paused) :
    ((p.elapsed now).duration : Int) = ran := by
  obtain ⟨hran, s, hs, hsum⟩ := hi.accounts hp
  have helapsed :
      p.elapsed now = ⟨Clock.between s now, p.session.pausedTotal, p.openPause now⟩ := by
    have hactive := (active_of_phase hp).2
    rcases hp with hp | hp
    · have hpaused := (Session.phase_eq_running.1 hp).2.2
      have hnone := ((clocked_running hp).1 hi).2.1
      simp [elapsed, Session.reading, hactive, hs, hpaused, openPause, hnone]
    · have hpaused := (Session.phase_eq_paused.1 hp).2.2
      simp [elapsed, Session.reading, hactive, hs, hpaused, openPause]
  rw [helapsed]
  exact duration_of_sum hran hsum

theorem Clocked.duration_result (hi : p.Clocked ran now) (hp : p.phase = .complete) :
    ∃ r, p.result = some r ∧ (r.elapsed.duration : Int) = ran := by
  obtain ⟨hran, r, s, e, hr, -, -, helapsed, hsum⟩ := (clocked_complete hp).1 hi
  refine ⟨r, hr, ?_⟩
  rw [helapsed]
  exact duration_of_sum hran (by simpa using hsum)

theorem Move.testStarted_notMem (h : Move p a q es cs) (ha : ∀ k u, a ≠ .key k u) :
    .testStarted ∉ es := by
  cases h with
  | start k now hk => exact absurd hk (ha k now)
  | _ => simp

theorem not_completes_key (k : Key) (u : Instant) : ¬ p.Completes (.key k u) now := by
  rintro (h | ⟨h, -⟩) <;> cases h

theorem not_leaves_key (k : Key) (u : Instant) : ¬ p.Leaves (.key k u) now q := by
  intro h
  cases h with
  | typedOut hc => exact not_completes_key k u hc
  | emptied _ ha => exact nomatch ha

theorem Move.endedAt_of_key {k : Key} {u : Instant} (h : Move p (.key k u) q es cs)
    (hp : p.session.endedAt = none) : q.session.endedAt = none := by
  cases h with
  | start | hit | miss | pause | resume => exact hp
  | resetKey => rfl
  | forget now hc => exact absurd hc (not_completes_key k u)
  | nextLine now q hq | finish now q hq => exact absurd hq (not_leaves_key k u)
  | reset ha | switchIdle _ _ ha | switch _ _ ha | replace _ _ ha => cases ha

theorem step_endedAt_of_key (hs : p.Sound) (k : Key) (u : Instant)
    (hp : p.session.endedAt = none) :
    (p.step (.key k u)).practice.session.endedAt = none :=
  (moves_step p hs _).preserves (P := fun q => q.session.endedAt = none)
    (fun h hm => hm.endedAt_of_key h) hp

theorem Moves.testStarted_notMem (h : Moves a p q es cs) (ha : ∀ k u, a ≠ .key k u) :
    .testStarted ∉ es := by
  induction h with
  | refl p => simp
  | head hm _ ih => simpa using ⟨hm.testStarted_notMem ha, ih⟩

theorem Clocked.duration_step (hs : p.Sound) (hi : p.Clocked ran now)
    (hp : p.phase = .running ∨ p.phase = .paused) (ha : a.time? = some now)
    (hend : (p.step a).practice.phase = .complete) :
    ∃ r, (p.step a).practice.result = some r ∧ (r.elapsed.duration : Int) = ran := by
  by_cases hkey : ∃ k u, a = .key k u
  · obtain ⟨k, u, rfl⟩ := hkey
    have hnone := step_endedAt_of_key hs k u (active_of_phase hp).1
    have hsome := Session.phase_eq_complete.1 hend
    simp [hnone] at hsome
  · have hm := moves_step p hs a
    have hquiet := hm.testStarted_notMem fun k u h => hkey ⟨k, u, h⟩
    have hlast := hm.clocked hs hi (by simp [ha])
    rw [if_neg hquiet] at hlast
    exact hlast.duration_result hend

/-- While a test is running or paused the clock shows exactly the time spent running since the test
started: the pauses never exceed the time since the start, so no clamp is needed. A step that ends
the test puts that very time into the result, whether or not a pause is open. -/
theorem elapsed_eq_running (source : Snippet) (info : SnippetInfo) (preset : Preset)
    (settleDelay : Duration) (recorder : Option Recorder) (actions : List Action) (now : Instant)
    (htimes : (times actions ++ [now]).Pairwise (· ≤ ·)) :
    let fresh := begin source info preset settleDelay recorder
    let p := (fresh.run actions).practice
    let ran := (fresh.timeline actions).running now
    p.phase = .running ∨ p.phase = .paused →
      (∃ s : Int, p.session.startedAt = some s ∧
        (p.session.pausedTotal : Int) + (p.openPause now : Int) ≤ now - s) ∧
      ((p.elapsed now).duration : Int) = ran ∧
      ∀ a, a.time? = some now → (p.step a).practice.phase = .complete →
        ∃ r, (p.step a).practice.result = some r ∧ (r.elapsed.duration : Int) = ran := by
  intro fresh p ran hphase
  have hs : fresh.Sound := begin_sound source info preset settleDelay recorder
  have hsession : fresh.session = _ := begin_session ..
  have hfresh (u : Int) : fresh.Clocked (Timeline.running [] u) u := by
    refine (clocked_idle ?_).2 ⟨Int.le_refl 0, ?_, ?_⟩
    · rw [phase, hsession]
      rfl
    · rw [hsession]
    · rw [hsession]
  have hi : p.Clocked ran now := run_clocked hs htimes fun u _ => hfresh u
  obtain ⟨hran, s, hstart, hsum⟩ := hi.accounts hphase
  refine ⟨⟨s, hstart, ?_⟩, hi.duration_elapsed hphase, fun a ha hend =>
    hi.duration_step (run_sound hs actions) hphase ha hend⟩
  omega

/-- Two keys with a pause between them: 10 to 20 and 50 to 110 are counted, 20 to 50 is not. -/
theorem elapsed_eq_running_pause :
    let p := ((begin (.ofWords ["ab"]) {} .full 50 none).run
      [.key (.plain 'a') 10, .togglePause 20, .togglePause 50, .key (.plain 'b') 60]).practice
    ((p.elapsed 110).duration : Int) = 70 ∧
      ∃ r, (p.step (.poll 110)).practice.result = some r ∧ (r.elapsed.duration : Int) = 70 := by
  have h := elapsed_eq_running (.ofWords ["ab"]) {} .full 50 none
    [.key (.plain 'a') 10, .togglePause 20, .togglePause 50, .key (.plain 'b') 60] 110
    (by decide) (by decide)
  obtain ⟨r, hr, hlength⟩ := h.2.2 (.poll 110) rfl (by decide)
  exact ⟨h.2.1.trans (by decide), r, hr, hlength.trans (by decide)⟩

end TypingTrainer.Practice
