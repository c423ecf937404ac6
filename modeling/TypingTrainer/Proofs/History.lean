import TypingTrainer.Proofs.Moves

namespace TypingTrainer.Practice

/-- How a value changes with a step, seen from the practice before it, the action, the practice
after it and the events that it reported. -/
abbrev Observer (σ : Type) := Practice → Action → Practice → List Event → σ → σ

variable {σ : Type} {see : Observer σ} {P : Practice → σ → Prop} {s : σ}
variable {p q : Practice} {a : Action} {es : List Event} {cs : List Call}

/-- The value after a whole run. -/
def observe (see : Observer σ) (p : Practice) (s : σ) : List Action → σ
  | [] => s
  | a :: rest =>
    let r := p.step a
    r.practice.observe see (see p a r.practice r.events s) rest

/-- Each move keeps `P` between the practice and the observed value, and the key that starts a test
is seen as the start and then a key of the running test. -/
structure Tracks (see : Observer σ) (P : Practice → σ → Prop) : Prop where
  still : ∀ {p a s}, P p s → p.startsOver a = false → a.isSwitch = false → P p (see p a p [] s)
  move : ∀ {p a q es cs s}, p.Sound → P p s → Move p a q es cs → P q (see p a q es s)
  start : ∀ {p k now c q es s}, p.phase = .idle → k.classify p.phase = .type c →
    (p.started now).phase = .running →
    see p (.key k now) q (.testStarted :: es) s =
      see (p.started now) (.key k now) q es
        (see p (.key k now) (p.started now) [.testStarted] s)

theorem Tracks.turn (h : Tracks see P) (hs : p.Sound) (hp : P p s) (ht : Turn p a q es cs) :
    P q (see p a q es s) := by
  cases ht with
  | still hover hswitch => exact h.still hp hover hswitch
  | move hm => exact h.move hs hp hm

theorem Tracks.step (h : Tracks see P) (hs : p.Sound) (hp : P p s) (a : Action) :
    P (p.step a).practice (see p a (p.step a).practice (p.step a).events s) := by
  rcases step_cases hs a with hturn | ⟨k, now, es, hopens⟩
  · exact h.turn hs hp hturn
  · obtain rfl := hopens.key
    obtain ⟨c, hk⟩ := hopens.types
    have hm := hopens.start
    rw [hopens.events_eq, h.start hopens.idle hk hopens.running]
    exact h.turn (hm.sound hs) (h.move hs hp hm) hopens.turn

theorem Tracks.run (h : Tracks see P) (hs : p.Sound) (hp : P p s) (actions : List Action) :
    P (p.run actions).practice (p.observe see s actions) := by
  induction actions generalizing p s with
  | nil => exact hp
  | cons a rest ih => exact ih (step_sound hs a) (h.step hs hp a)

/-- What holds after a run held all along, or has held ever since some step brought it about. -/
theorem holds_since {Q : Practice → Prop} {actions : List Action}
    (h : Q (p.run actions).practice) :
    (∀ n, Q (p.run (actions.take n)).practice) ∨
    ∃ earlier a later, actions = earlier ++ a :: later ∧ ¬ Q (p.run earlier).practice ∧
      ∀ n, Q (((p.run earlier).practice.step a).practice.run (later.take n)).practice := by
  induction actions generalizing p with
  | nil =>
      left
      intro n
      rw [List.take_nil]
      exact h
  | cons a rest ih =>
      rcases ih (p := (p.step a).practice) h with hall | ⟨earlier, b, later, rfl, hnot, hsince⟩
      · by_cases hp : Q p
        · left
          intro n
          cases n with
          | zero => exact hp
          | succ n => exact hall n
        · exact .inr ⟨[], a, rest, rfl, hp, hall⟩
      · exact .inr ⟨a :: earlier, b, later, rfl, hnot, hsince⟩

end TypingTrainer.Practice
