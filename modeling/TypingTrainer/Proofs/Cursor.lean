import TypingTrainer.Proofs.Moves

namespace TypingTrainer.Practice

open Session (nextTypeable isTypeable_nextTypeable firstTypeable_nextTypeable)

def Action.isCompletion : Action → Bool
  | .completeLine _ _ => true
  | _ => false

/-- The current line has something to type, and its completion is pending exactly when it is typed
to its end. -/
def OnLine (p : Practice) : Prop :=
  ∃ l, p.current? = some l ∧ l.sequence ≠ "" ∧ p.session.char ≤ l.typingLen ∧
    (p.pending.isSome = true ↔ p.session.char = l.typingLen)

/-- No line has anything to type, and the cursor is behind the lines. -/
def Stranded (p : Practice) : Prop :=
  (∀ l ∈ p.lines, l.isTypeable = false) ∧ p.session.line = p.lines.length ∧
    p.session.char = 0 ∧ p.pending = none

structure Coherent (p : Practice) : Prop where
  lines_eq : p.lines = (p.source.filter p.preset).lines
  idle : p.phase = .idle →
    FirstTypeable p.lines p.session.line ∧ p.session.char = 0 ∧ p.pending = none
  active : p.phase = .running ∨ p.phase = .paused → p.OnLine ∨ p.Stranded
  complete : p.phase = .complete → p.pending = none ∧ p.current? = none
  generation_eq : ∀ c, p.pending = some c → c.generation = p.generation

variable {p q : Practice} {a : Action} {es : List Event} {cs : List Call} {now : Instant}

theorem onLine_of_typeable {l : Line} (hl : p.current? = some l) (ht : l.isTypeable = true)
    (hchar : p.session.char = 0) (hpending : p.pending = none) : p.OnLine := by
  have hlen := (Line.isTypeable_iff l).1 ht
  refine ⟨l, hl, by simpa [Line.isTypeable] using ht, by omega, ?_⟩
  simp only [hpending, hchar, Option.isSome_none, Bool.false_eq_true, false_iff]
  omega

theorem Coherent.active_of_pending (hi : p.Coherent) {c : Completion} (hc : p.pending = some c) :
    p.phase = .running ∨ p.phase = .paused := by
  cases hphase : p.phase with
  | idle => simp [(hi.idle hphase).2.2] at hc
  | complete => simp [(hi.complete hphase).1] at hc
  | running => exact .inl rfl
  | paused => exact .inr rfl

theorem Coherent.lineDone_of_pending (hi : p.Coherent) {c : Completion} (hc : p.pending = some c) :
    p.lineDone = true := by
  rcases hi.active (hi.active_of_pending hc) with ⟨l, hl, -, -, hiff⟩ | ⟨-, -, -, hnone⟩
  · have hchar := hiff.1 (by simp [hc])
    simp [lineDone, hl, hchar]
  · simp [hnone] at hc

theorem coherent_idle (hp : p.phase = .idle) (h : p.lines = (p.source.filter p.preset).lines)
    (hfirst : FirstTypeable p.lines p.session.line) (hchar : p.session.char = 0)
    (hpending : p.pending = none) : p.Coherent where
  lines_eq := h
  idle _ := ⟨hfirst, hchar, hpending⟩
  active ha := by rcases ha with ha | ha <;> exact nomatch hp.symm.trans ha
  complete hc := nomatch hp.symm.trans hc
  generation_eq c hc := by simp [hpending] at hc

theorem coherent_active (hp : p.phase = .running ∨ p.phase = .paused)
    (h : p.lines = (p.source.filter p.preset).lines) (ha : p.OnLine ∨ p.Stranded)
    (hg : ∀ c, p.pending = some c → c.generation = p.generation) : p.Coherent where
  lines_eq := h
  idle hi := by rcases hp with hp | hp <;> exact nomatch hp.symm.trans hi
  active _ := ha
  complete hc := by rcases hp with hp | hp <;> exact nomatch hp.symm.trans hc
  generation_eq := hg

theorem coherent_complete (hp : p.phase = .complete)
    (h : p.lines = (p.source.filter p.preset).lines) (hpending : p.pending = none)
    (hcurrent : p.current? = none) : p.Coherent where
  lines_eq := h
  idle hi := nomatch hp.symm.trans hi
  active ha := by rcases ha with ha | ha <;> exact nomatch hp.symm.trans ha
  complete _ := ⟨hpending, hcurrent⟩
  generation_eq c hc := by simp [hpending] at hc

theorem coherent_renewed (h : p.lines = (p.source.filter p.preset).lines) : p.renewed.Coherent :=
  coherent_idle rfl h (firstTypeable_nextTypeable p.lines) rfl rfl

theorem coherent_begin (source : Snippet) (info : SnippetInfo) (preset : Preset)
    (settleDelay : Duration) (recorder : Option Recorder) :
    (begin source info preset settleDelay recorder).Coherent := by
  rw [begin, reset_eq]
  exact coherent_renewed rfl

theorem length_switched (h : p.lines = (p.source.filter p.preset).lines) (preset : Preset) :
    (p.switched preset).lines.length = p.lines.length := by
  simp [switched, h, Snippet.filter]

theorem Leaves.lines_eq (h : p.Leaves a now q) (hl : p.lines = (p.source.filter p.preset).lines) :
    q.lines = (q.source.filter q.preset).lines := by
  cases h with
  | typedOut => exact hl
  | emptied => rfl

theorem Leaves.pending_eq (h : p.Leaves a now q) : q.pending = none := by
  cases h <;> rfl

theorem Coherent.hit (hi : p.Coherent) {l : Line} {c : Char} (h : p.phase = .running)
    (hl : p.current? = some l) (hc : l.expected? p.session.char = some c) :
    (p.hit l now).Coherent := by
  have hlt : p.session.char < l.typingLen := (l.expected?_isSome_iff _).1 (by simp [hc])
  refine coherent_active (.inl h) hi.lines_eq (.inl ?_) ?_
  · rcases hi.active (.inl h) with ⟨m, hm, hne, -, hiff⟩ | ⟨-, hline, -, -⟩
    · obtain rfl : l = m := Option.some.inj (hl.symm.trans hm)
      have hnone : p.pending.isSome = false := Bool.eq_false_iff.2 fun hs => by
        have := hiff.1 hs
        omega
      refine ⟨l, hl, hne, hlt, ?_⟩
      by_cases hn : p.session.char + 1 = l.typingLen
      · simp [Practice.hit, Session.hit, hn]
      · simp [Practice.hit, Session.hit, hn, hnone]
    · simp [current?, Session.current?, hline] at hl
  · intro d hd
    by_cases hn : p.session.char + 1 = l.typingLen
    · simp only [Practice.hit, hn, if_true, Option.some.injEq] at hd
      rw [← hd]
      rfl
    · simp only [Practice.hit, hn, if_false] at hd
      exact hi.generation_eq d hd

theorem Coherent.move (hs : p.Sound) (hi : p.Coherent) (ha : a.isCompletion = false)
    (h : Move p a q es cs) : q.Coherent := by
  cases h with
  | start k now _ h =>
      obtain ⟨hfirst, hchar, hpending⟩ := hi.idle h
      refine coherent_active (.inl (hs.phase_start h now)) hi.lines_eq ?_ hi.generation_eq
      rcases hfirst with ⟨l, hl, ht, -⟩ | ⟨hline, hnone⟩
      · exact .inl (onLine_of_typeable hl ht hchar hpending)
      · exact .inr ⟨hnone, hline, hchar, hpending⟩
  | hit k now _ l c h hl hc => exact hi.hit h hl hc
  | miss k now _ l c h =>
      exact coherent_active (.inl h) hi.lines_eq (hi.active (.inl h)) hi.generation_eq
  | pause now _ h =>
      exact coherent_active (.inr (phase_pause h now)) hi.lines_eq (hi.active (.inl h))
        hi.generation_eq
  | resume now _ h =>
      exact coherent_active (.inl (phase_resume h now)) hi.lines_eq (hi.active (.inr h))
        hi.generation_eq
  | forget now hc h =>
      rcases hc with rfl | ⟨-, hpaused, c, hpending, -⟩
      · exact nomatch ha
      · -- a due completion always finds its line done, so a poll forgets none
        refine absurd ⟨(hi.active_of_pending hpending).resolve_right fun hp => ?_,
          hi.lineDone_of_pending hpending⟩ h
        simp [(Session.phase_eq_paused.1 hp).2.2] at hpaused
  | nextLine now q hq h =>
      have hpending := hq.pending_eq
      refine coherent_active (hq.phase_eq ▸ hq.running_or_paused) (hq.lines_eq hi.lines_eq)
        (.inl ?_) (by simp [hpending])
      have hl := List.getElem?_eq_getElem h
      exact onLine_of_typeable hl (isTypeable_nextTypeable hl) rfl hpending
  | finish now q hq h =>
      exact coherent_complete (Session.phase_eq_complete.2 rfl) (hq.lines_eq hi.lines_eq)
        hq.pending_eq (List.getElem?_eq_none h)
  | resetKey | reset => exact coherent_renewed hi.lines_eq
  | replace => exact coherent_renewed rfl
  | switchIdle preset now _ h =>
      exact coherent_idle h rfl (firstTypeable_nextTypeable _) rfl rfl
  | switch preset now _ h =>
      rcases h with h | ⟨h, ht⟩
      · refine coherent_complete h rfl rfl (List.getElem?_eq_none ?_)
        have hline := List.getElem?_eq_none_iff.1 (hi.complete h).2
        exact Nat.le_trans (Nat.le_of_eq (length_switched hi.lines_eq preset)) hline
      · obtain ⟨l, hl, ht⟩ := (Option.any_eq_true _ _).1 ht
        exact coherent_active h rfl (.inl (onLine_of_typeable hl ht rfl rfl)) (by simp [switched])

theorem Coherent.poll_due (hi : p.Coherent) {c : Completion} (hc : p.pending = some c)
    (hphase : p.phase = .running) (hdue : c.due ≤ now) :
    p.poll now = { p.settled.advance now with answer := true } := by
  have hpaused : p.session.paused = false := (Session.phase_eq_running.1 hphase).2.2
  rw [← completeLine_done hphase (hi.lineDone_of_pending hc) now, ← hi.generation_eq c hc]
  simp [poll, hc, hdue, hpaused]

theorem Coherent.poll_iff (hi : p.Coherent) (now : Instant) :
    (p.poll now).answer = true ↔
      ∃ c, p.pending = some c ∧ c.due ≤ now ∧ p.phase ≠ .paused := by
  cases hc : p.pending with
  | none => simp [poll, hc]
  | some c =>
      rcases hi.active_of_pending hc with hphase | hphase
      · by_cases hdue : c.due ≤ now
        · simp [hi.poll_due hc hphase hdue, hdue, hphase]
        · simp [poll, hc, hdue]
      · have hpaused := (Session.phase_eq_paused.1 hphase).2.2
        simp [poll, hc, hpaused, hphase]

/-- In every run without direct completions the cursor and the pending completion agree with the
lines; a poll completes a line exactly when its completion is due and the practice is not paused. -/
theorem coherent_run (source : Snippet) (info : SnippetInfo) (preset : Preset)
    (settleDelay : Duration) (recorder : Option Recorder) (actions : List Action)
    (h : ∀ a ∈ actions, a.isCompletion = false) :
    let p := ((begin source info preset settleDelay recorder).run actions).practice
    p.Coherent ∧ ∀ now, (p.poll now).answer = true ↔
      ∃ c, p.pending = some c ∧ c.due ≤ now ∧ p.phase ≠ .paused := by
  intro p
  have hi : p.Coherent := (run_preserves (P := Coherent)
    (begin_sound source info preset settleDelay recorder)
    (coherent_begin source info preset settleDelay recorder)
    fun ha hs hi hm => hi.move hs (h _ ha) hm).2
  exact ⟨hi, hi.poll_iff⟩

/-- A word typed out, an early poll, a pause: the completion is pending and runs once it is due. -/
theorem coherent_run_pause :
    let p := ((begin (.ofWords ["a", "", "b"]) {} .full 50 none).run
      [.key (.plain 'a') 10, .poll 20, .togglePause 30, .poll 70, .togglePause 80]).practice
    p.Coherent ∧ p.pending = some ⟨1, 60⟩ ∧ (p.poll 59).answer = false ∧
      (p.poll 60).answer = true := by
  have h := coherent_run (.ofWords ["a", "", "b"]) {} .full 50 none
    [.key (.plain 'a') 10, .poll 20, .togglePause 30, .poll 70, .togglePause 80] (by decide)
  refine ⟨h.1, by decide, Bool.eq_false_iff.2 fun hp => ?_, (h.2 60).2 ⟨⟨1, 60⟩, by decide⟩⟩
  obtain ⟨c, hc, hdue, -⟩ := (h.2 59).1 hp
  obtain rfl : c = ⟨1, 60⟩ := Option.some.inj (hc.symm.trans (by decide))
  exact absurd hdue (by decide)

end TypingTrainer.Practice
