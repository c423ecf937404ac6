import TypingTrainer.Proofs.Moves

namespace TypingTrainer

def Clock.Reading.balance (r : Clock.Reading) : Int :=
  (r.sinceStart : Int) - (r.paused : Int) - (r.openPause : Int)

theorem Clock.Reading.duration_eq (r : Clock.Reading) : (r.duration : Int) = max 0 r.balance := by
  rw [duration_eq_sub, balance]
  omega

namespace Clock

variable {a b c : Int}

theorem between_self (t : Instant) : between t t = 0 := by
  simp [between]

theorem between_add (hab : a ≤ b) (hbc : b ≤ c) : between a c = between a b + between b c := by
  have hsum : (c - a).toNat = (b - a).toNat + (c - b).toNat := by omega
  exact hsum

theorem between_mono (hbc : b ≤ c) : between a b ≤ between a c :=
  Int.toNat_le_toNat (Int.sub_le_sub_right hbc a)

end Clock

namespace Session

variable {s t : Session} {now later start since : Instant}

/-- How long the pause that is open has lasted. -/
def openPause (s : Session) (now : Instant) : Duration :=
  if s.paused then (s.pausedAt.map (Clock.between · now)).getD 0 else 0

def pauses (s : Session) (now : Instant) : Duration := s.pausedTotal + s.openPause now

theorem openPause_of_not_paused (h : s.paused = false) (now : Instant) : s.openPause now = 0 := by
  simp [openPause, h]

theorem openPause_of_paused (h : s.paused = true) (hsince : s.pausedAt = some since)
    (now : Instant) : s.openPause now = Clock.between since now := by
  simp [openPause, h, hsince]

theorem duration_reading (s : Session) (now : Instant) : (s.reading now).duration =
    if s.active then (s.startedAt.map (Clock.between · now)).getD 0 - s.pauses now else 0 := by
  cases hactive : s.active with
  | false => simp [reading, hactive, Clock.Reading.duration_eq_sub, Clock.Reading.zero]
  | true =>
      cases hstart : s.startedAt with
      | none => simp [reading, hactive, hstart, Clock.Reading.duration_eq_sub, Clock.Reading.zero]
      | some start =>
          simp [reading, hactive, hstart, Clock.Reading.duration_eq_sub, pauses, openPause,
            Nat.sub_sub]

theorem duration_congr (hactive : t.active = s.active) (hstart : t.startedAt = s.startedAt)
    (hpauses : t.pauses now = s.pauses now) :
    (t.reading now).duration = (s.reading now).duration := by
  rw [duration_reading, duration_reading, hactive, hstart, hpauses]

theorem pauses_pause (h : s.paused = false) (now : Instant) :
    (s.pause now).pauses now = s.pauses now := by
  have hopen : (s.pause now).openPause now = 0 := by
    rw [openPause_of_paused rfl rfl, Clock.between_self]
  rw [pauses, pauses, hopen, openPause_of_not_paused h]
  rfl

/-- A pause that was open counts on, now as one that is over. -/
theorem pauses_closePause (h : s.paused = false → s.pausedAt = none) (now : Instant) :
    (s.closePause now).pauses now = s.pauses now := by
  have hopen : s.openPause now = (s.pausedAt.map (Clock.between · now)).getD 0 := by
    cases hpaused : s.paused with
    | true => simp [openPause, hpaused]
    | false => simp [openPause, hpaused, h hpaused]
  rw [pauses, pauses, hopen, openPause_of_not_paused rfl]
  rfl

theorem duration_closePause (h : s.paused = false → s.pausedAt = none) (now : Instant) :
    ((s.closePause now).reading now).duration = (s.reading now).duration :=
  duration_congr rfl rfl (pauses_closePause h now)

theorem duration_togglePause (s : Session) (now : Instant) :
    ((s.togglePause now).session.reading now).duration = (s.reading now).duration := by
  cases hp : s.phase with
  | idle | complete => simp only [togglePause, hp]
  | running =>
      have hpaused := (phase_eq_running.1 hp).2.2
      simp only [togglePause, hp]
      exact duration_congr rfl rfl (pauses_pause hpaused now)
  | paused =>
      have hpaused := (phase_eq_paused.1 hp).2.2
      simp only [togglePause, hp]
      exact duration_closePause (by simp [hpaused]) now

theorem duration_during_pause (hpaused : s.paused = true) (hsince : s.pausedAt = some since)
    (hstart : ∀ start, s.startedAt = some start → start ≤ since) (hle : since ≤ now) :
    (s.reading now).duration = (s.reading since).duration := by
  simp only [duration_reading, pauses, openPause_of_paused hpaused hsince]
  cases h : s.startedAt with
  | none => simp
  | some start =>
      have hsplit := Clock.between_add (hstart start h) hle
      simp only [Option.map_some, Option.getD_some, hsplit, Clock.between_self,
        Nat.add_sub_add_right, Nat.add_zero]

theorem duration_mono (hpaused : s.paused = false) (hle : now ≤ later) :
    (s.reading now).duration ≤ (s.reading later).duration := by
  simp only [duration_reading, pauses, openPause_of_not_paused hpaused, Nat.add_zero]
  cases s.active with
  | false => exact Nat.le_refl _
  | true =>
      cases s.startedAt with
      | none => exact Nat.le_refl _
      | some start => exact Nat.sub_le_sub_right (Clock.between_mono hle) _

/-- Whatever the session and the instant: the clock does not jump when a pause is opened or closed,
stands still while it is open, goes on otherwise, and never shows less than nothing. -/
theorem clock_steady (s : Session) (now : Instant) :
    ((s.togglePause now).session.reading now).duration = (s.reading now).duration ∧
      ((s.paused = true ↔ s.pausedAt.isSome = true) →
        ((s.closePause now).reading now).duration = (s.reading now).duration) ∧
      (∀ since, s.paused = true → s.pausedAt = some since →
        (∀ start, s.startedAt = some start → start ≤ since) → since ≤ now →
          (s.reading now).duration = (s.reading since).duration) ∧
      (s.paused = false → ∀ later, now ≤ later →
        (s.reading now).duration ≤ (s.reading later).duration) ∧
      ((s.reading now).duration : Int) = max 0 (s.reading now).balance := by
  refine ⟨duration_togglePause s now, fun hopen => ?_, ?_, ?_, Clock.Reading.duration_eq _⟩
  · refine duration_closePause (fun hpaused => ?_) now
    simpa [hpaused] using hopen
  · exact fun since hpaused hsince hstart hle => duration_during_pause hpaused hsince hstart hle
  · exact fun hpaused later hle => duration_mono hpaused hle

/-- The clock went back behind the start of the pause: the pause is then as if it had not lasted,
before it is closed and after. Later it shows the same at every instant. -/
theorem clock_steady_backwards :
    let s : Session := {
      active := true, paused := true
      startedAt := some 100, pausedAt := some 150, pausedTotal := 5 }
    ((s.togglePause 120).session.reading 120).duration = 15 ∧
      ((s.closePause 120).reading 120).duration = 15 ∧ (s.reading 900).duration = 45 ∧
      (s.reading 900).duration ≤ ((s.closePause 900).reading 1000).duration := by
  intro s
  obtain ⟨htoggle, hclose, -⟩ := clock_steady s 120
  obtain ⟨-, hclosed, hstill, -⟩ := clock_steady s 900
  have hmono := (clock_steady (s.closePause 900) 900).2.2.2.1 rfl 1000 (by decide)
  have hstart : ∀ start, s.startedAt = some start → start ≤ 150 := by
    rintro start ⟨⟩
    decide
  refine ⟨htoggle.trans rfl, (hclose (by decide)).trans rfl, ?_, ?_⟩
  · exact (hstill 150 rfl rfl hstart (by decide)).trans rfl
  · rwa [hclosed (by decide)] at hmono

end Session

end TypingTrainer
