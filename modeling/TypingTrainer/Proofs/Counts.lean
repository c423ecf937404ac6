import TypingTrainer.Proofs.Generation
import TypingTrainer.Proofs.Moves

namespace TypingTrainer

namespace Session

variable {s : Session} {lines : List Line} {now : Instant} {m n : Nat}

/-- The words of the two counts can take `n` more. -/
def Fits (s : Session) (n : Nat) : Prop :=
  s.typed + n < UInt64.size ∧ s.errors + n < UInt64.size

theorem stored_of_fits (h : s.Fits 0) : s.stored = s := by
  have htyped : s.typed % UInt64.size = s.typed := Nat.mod_eq_of_lt h.1
  have herrors : s.errors % UInt64.size = s.errors := Nat.mod_eq_of_lt h.2
  rw [stored, htyped, herrors]

theorem stored_stored (s : Session) : s.stored.stored = s.stored := by
  simp only [stored, Nat.mod_mod]

def Reply.stored {α : Type} (r : Reply α) : Reply α := { r with session := r.session.stored }

theorem stored_hit (s : Session) : s.stored.hit.stored = s.hit.stored := by
  simp only [hit, stored, Nat.mod_add_mod, Nat.mod_mod]

theorem stored_miss (s : Session) : s.stored.miss.stored = s.miss.stored := by
  simp only [miss, stored, Nat.mod_add_mod, Nat.mod_mod]

theorem typeChar_stored (s : Session) (lines : List Line) (c : Char) :
    (s.stored.typeChar lines c).stored = (s.typeChar lines c).stored := by
  have hstill : Reply.stored ⟨s.stored, Outcome.ignored, []⟩ = Reply.stored ⟨s, .ignored, []⟩ := by
    rw [Reply.stored, Reply.stored, stored_stored]
  have hcurrent : s.stored.current? lines = s.current? lines := rfl
  have hchar : s.stored.char = s.char := rfl
  rw [typeChar, typeChar, hcurrent, hchar]
  cases s.current? lines with
  | none => exact hstill
  | some l =>
      dsimp only
      cases l.expected? s.char with
      | none => exact hstill
      | some e =>
          dsimp only
          by_cases hc : c = e
          · rw [if_pos hc, if_pos hc]
            exact congrArg (Reply.mk · _ _) s.stored_hit
          · rw [if_neg hc, if_neg hc]
            exact congrArg (Reply.mk · _ _) s.stored_miss

theorem togglePause_stored (s : Session) (now : Instant) :
    (s.stored.togglePause now).stored = (s.togglePause now).stored := by
  have hphase : s.stored.phase = s.phase := rfl
  rw [togglePause, togglePause, hphase]
  cases s.phase <;> simp only [Reply.stored, stored, closePause, Nat.mod_mod]

theorem handleKey_stored (s : Session) (lines : List Line) (k : Key) (now : Instant) :
    (s.stored.handleKey lines k now).stored = (s.handleKey lines k now).stored := by
  have hphase : s.stored.phase = s.phase := rfl
  rw [handleKey, handleKey, hphase]
  cases k.classify s.phase with
  | ignore | reset => simp only [Reply.stored, stored_stored]
  | togglePause =>
      have htoggle := s.togglePause_stored now
      simp only [Reply.stored, Reply.mk.injEq] at htoggle ⊢
      exact ⟨htoggle.1, trivial, htoggle.2.2⟩
  | type c =>
      dsimp only
      by_cases hidle : s.phase = .idle
      · have htyped := (s.start now).typeChar_stored lines c
        rw [if_pos hidle, if_pos hidle]
        simp only [Reply.stored, Reply.mk.injEq] at htyped ⊢
        exact ⟨htyped.1, htyped.2.1, congrArg _ htyped.2.2⟩
      · rw [if_neg hidle, if_neg hidle]
        exact s.typeChar_stored lines c

theorem whileEmpty_stored {step : Session → Session} (h : ∀ s, step s.stored = (step s).stored)
    (lines : List Line) (s : Session) :
    s.stored.whileEmpty step lines = (s.whileEmpty step lines).stored := by
  induction lines generalizing s with
  | nil => rfl
  | cons l rest ih =>
      rw [whileEmpty, whileEmpty]
      split
      · rfl
      · rw [h, ih]

theorem arrive_stored (s : Session) (lines : List Line) (now : Instant) :
    s.stored.arrive lines now = (s.arrive lines now).stored := by
  have hline : s.stored.line = s.line := rfl
  rw [arrive, arrive, hline]
  split <;> rfl

theorem advanceLine_stored (s : Session) (lines : List Line) (now : Instant) :
    s.stored.advanceLine lines now = (s.advanceLine lines now).stored := by
  have hpass (t : Session) : t.stored.pass lines = (t.pass lines).stored := rfl
  have hmoved := whileEmpty_stored hpass (lines.drop (s.pass lines).line)
    { s.pass lines with char := 0, missed := false }
  rw [advanceLine, advanceLine, ← arrive_stored, ← hmoved]
  rfl

end Session

namespace Practice

variable {p q : Practice} {a : Action} {es : List Event} {cs : List Call}

def stored (p : Practice) : Practice := { p with session := p.session.stored }

def Reply.stored {α : Type} (r : Reply α) : Reply α := { r with practice := r.practice.stored }

theorem Reply.stored_map {α β : Type} {f : α → β} {r r' : Reply α} (h : r.stored = r'.stored) :
    (r.map f).stored = (r'.map f).stored := congrArg (Reply.map f) h

theorem Reply.stored_answered {α : Type} {r r' : Reply Unit} (h : r.stored = r'.stored) (b : α) :
    Reply.stored { r with answer := b } = Reply.stored { r' with answer := b } :=
  congrArg (fun r => { r with answer := b }) h

theorem follow_stored {r r' : Session.Reply Outcome} (h : r.stored = r'.stored) (p : Practice)
    (now : Instant) : (p.stored.follow r now).stored = (p.follow r' now).stored := by
  obtain ⟨s, o, es⟩ := r
  obtain ⟨s', o', es'⟩ := r'
  obtain ⟨hsession, rfl, rfl⟩ := Session.Reply.mk.inj h
  cases o with
  | resetRequested => rfl
  | ignored | handled | lineFinished => simp only [follow, Reply.stored, stored, hsession]

theorem finish_stored (p : Practice) (now : Instant) :
    (p.stored.finish now).stored = (p.finish now).stored := by
  simp only [finish, Reply.stored, stored, Session.stored, Session.closePause, Nat.mod_mod]
  rfl

theorem advance_stored (p : Practice) (now : Instant) :
    (p.stored.advance now).stored = (p.advance now).stored := by
  have hleft : p.stored.session.advanceLine p.stored.lines now =
      (p.session.advanceLine p.lines now).stored := p.session.advanceLine_stored p.lines now
  rw [advance, advance, hleft]
  generalize p.session.advanceLine p.lines now = r
  obtain ⟨s, o, es⟩ := r
  cases o with
  | nextLine => simp only [Session.Reply.stored, Reply.stored, stored, Session.stored_stored]
  | testFinished =>
      have hfinish := { p with session := s }.finish_stored now
      exact congrArg (fun f : Reply Unit => { f with events := es ++ f.events }) hfinish

theorem completeLine_stored (p : Practice) (generation : Nat) (now : Instant) :
    (p.stored.completeLine generation now).stored = (p.completeLine generation now).stored := by
  by_cases hg : generation = p.generation
  · subst hg
    by_cases hd : p.phase = .running ∧ p.lineDone = true
    · have hdone := completeLine_done (p := p.stored) hd.1 hd.2 now
      have hsettled : p.stored.settled = p.settled.stored := rfl
      rw [hsettled] at hdone
      rw [completeLine_done hd.1 hd.2]
      exact (congrArg Reply.stored hdone).trans
        (Reply.stored_answered (p.settled.advance_stored now) true)
    · have hrefused := completeLine_refused (p := p.stored) hd now
      rw [completeLine_refused hd]
      refine (congrArg Reply.stored hrefused).trans ?_
      simp only [Reply.stored, stored, settled, Session.stored_stored]
  · have hstale := completeLine_stale (p := p.stored) hg now
    rw [completeLine_stale hg]
    refine (congrArg Reply.stored hstale).trans ?_
    simp only [Reply.stored, stored, Session.stored_stored]

theorem poll_stored (p : Practice) (now : Instant) :
    (p.stored.poll now).stored = (p.poll now).stored := by
  have hpending : p.stored.pending = p.pending := rfl
  have hpaused : p.stored.session.paused = p.session.paused := rfl
  rw [poll, poll, hpending, hpaused]
  cases p.pending with
  | none => simp only [Reply.stored, stored, Session.stored_stored]
  | some c =>
      dsimp only
      split
      · exact p.completeLine_stored c.generation now
      · simp only [Reply.stored, stored, Session.stored_stored]

theorem setPreset_stored (p : Practice) (preset : Preset) (now : Instant) :
    (p.stored.setPreset preset now).stored = (p.setPreset preset now).stored := by
  have hphase : p.stored.phase = p.phase := rfl
  have hswitched : p.stored.switched preset = (p.switched preset).stored := rfl
  have hcurrent : (p.switched preset).stored.current? = (p.switched preset).current? := rfl
  rw [setPreset_eq, setPreset_eq, hphase, hswitched]
  cases p.phase with
  | idle | complete => simp only [Reply.stored, stored, Session.stored, Nat.mod_mod]
  | running | paused =>
      dsimp only
      rw [hcurrent]
      split
      · simp only [Reply.stored, stored, Session.stored_stored]
      · exact (p.switched preset).advance_stored now

theorem step_stored (p : Practice) (a : Action) : (p.stored.step a).stored = (p.step a).stored := by
  cases a with
  | key k now =>
      have hkey := p.session.handleKey_stored p.lines k now
      exact Reply.stored_map (follow_stored hkey p now)
  | poll now => exact Reply.stored_map (p.poll_stored now)
  | completeLine generation now => exact Reply.stored_map (p.completeLine_stored generation now)
  | togglePause now =>
      have htoggle := p.session.togglePause_stored now
      obtain ⟨hsession, -, hevents⟩ := Session.Reply.mk.inj htoggle
      simp only [step, togglePause, Reply.map, Reply.stored, stored]
      rw [hsession, hevents]
  | reset | replaceSnippet => rfl
  | setPreset preset now => exact Reply.stored_map (p.setPreset_stored preset now)

theorem stored_stored (p : Practice) : p.stored.stored = p.stored := by
  simp only [stored, Session.stored_stored]

def runStored (p : Practice) : List Action → Reply (List Answer)
  | [] => { practice := p.stored, answer := [] }
  | a :: rest =>
    let first := (p.step a).stored
    let more := first.practice.runStored rest
    { practice := more.practice
      answer := first.answer :: more.answer
      events := first.events ++ more.events
      calls := first.calls ++ more.calls }

/-- It makes no difference whether the counts are cut off after each step or once in the end. -/
theorem runStored_eq (p : Practice) (actions : List Action) :
    p.stored.runStored actions = (p.run actions).stored := by
  induction actions generalizing p with
  | nil => simp only [runStored, run, Reply.stored, stored_stored]
  | cons a rest ih =>
      have hstep : (p.stored.step a).stored = (p.step a).stored := p.step_stored a
      have hmore : (p.step a).stored.practice = (p.step a).practice.stored := rfl
      rw [runStored, run, hstep, hmore, ih]
      rfl

/-- Apart from the start of the test, which counts nothing, a move counts one key at most. -/
theorem Move.counts_le (h : Move p a q es cs) :
    q.session.typed + q.session.errors ≤ p.session.typed + p.session.errors + 1 := by
  cases h with
  | hit | miss => simp [Practice.hit]; omega
  | nextLine now q hq | finish now q hq => cases hq <;> exact Nat.le_add_right _ _
  | resetKey | reset | replace => exact Nat.zero_le _
  | start | pause | resume | forget | switch | switchIdle => exact Nat.le_add_right _ _

theorem Turn.counts_le (h : Turn p a q es cs) :
    q.session.typed + q.session.errors ≤ p.session.typed + p.session.errors + 1 := by
  cases h with
  | still => exact Nat.le_add_right _ _
  | move h => exact h.counts_le

theorem step_counts_le (hs : p.Sound) (a : Action) :
    (p.step a).practice.session.typed + (p.step a).practice.session.errors ≤
      p.session.typed + p.session.errors + 1 := by
  rcases step_cases hs a with hturn | ⟨k, now, es, hopens⟩
  · exact hturn.counts_le
  · exact hopens.turn.counts_le

theorem run_counts_le (hs : p.Sound) (actions : List Action) :
    (p.run actions).practice.session.typed + (p.run actions).practice.session.errors ≤
        p.session.typed + p.session.errors + actions.length ∧
      (p.run actions).practice.generation ≤ p.generation + actions.length := by
  induction actions generalizing p with
  | nil => exact ⟨Nat.le_refl _, Nat.le_refl _⟩
  | cons a rest ih =>
      have hcounts := step_counts_le hs a
      have hgeneration : (p.step a).practice.generation ≤ p.generation + 1 := by
        rw [step_generation]
        split <;> omega
      have hrun : (p.run (a :: rest)).practice = ((p.step a).practice.run rest).practice := rfl
      obtain ⟨hrest, hrest'⟩ := ih (step_sound hs a)
      rw [hrun, List.length_cons]
      omega

/-- Words hold whatever is counted in a run of fewer than 2 ^ 64 - 1 actions, and so what is shown
of the counts in full holds of the words. -/
theorem run_fits (source : Snippet) (info : SnippetInfo) (preset : Preset)
    (settleDelay : Duration) (recorder : Option Recorder) (actions : List Action)
    (h : actions.length + 1 < UInt64.size) :
    let fresh := begin source info preset settleDelay recorder
    let p := (fresh.run actions).practice
    fresh.runStored actions = fresh.run actions ∧ p.stored = p ∧ p.generation < UInt64.size := by
  intro fresh p
  have hs : fresh.Sound := begin_sound source info preset settleDelay recorder
  have hsession : fresh.session = _ := begin_session ..
  obtain ⟨hcounts, hgeneration⟩ := run_counts_le hs actions
  have hfirst : fresh.session.typed + fresh.session.errors = 0 := by
    rw [hsession]
    rfl
  have hone : fresh.generation = 1 := rfl
  rw [hfirst, Nat.zero_add] at hcounts
  rw [hone] at hgeneration
  have hfits : p.session.Fits 0 :=
    ⟨Nat.lt_of_le_of_lt (Nat.le_trans (Nat.le_add_right ..) hcounts) (Nat.lt_of_succ_lt h),
      Nat.lt_of_le_of_lt (Nat.le_trans (Nat.le_add_left ..) hcounts) (Nat.lt_of_succ_lt h)⟩
  have hp : p.stored = p :=
    congrArg (fun s => { p with session := s }) (Session.stored_of_fits hfits)
  have hfresh : fresh.stored = fresh := by
    have hstored : fresh.session.stored = fresh.session := by
      rw [hsession]
      rfl
    exact congrArg (fun s => { fresh with session := s }) hstored
  refine ⟨?_, hp, Nat.lt_of_le_of_lt hgeneration (Nat.add_comm 1 _ ▸ h)⟩
  have hrun := fresh.runStored_eq actions
  rw [hfresh] at hrun
  rw [hrun]
  exact congrArg (fun q => { fresh.run actions with practice := q }) hp

end Practice

end TypingTrainer
