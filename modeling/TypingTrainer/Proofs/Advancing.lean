import TypingTrainer.Proofs.Completed

namespace TypingTrainer

variable {lines : List Line} {i j : Nat}

/-- A cursor that looks from line `i` on for something to type comes to stand at `j`. Where it finds
nothing it stands behind the lines, or stays if it is further behind them. -/
def Lands (lines : List Line) (i j : Nat) : Prop :=
  NextTypeable lines i j ∨ (∀ l ∈ lines.drop i, l.isTypeable = false) ∧ j = max i lines.length

theorem Lands.eq_nextTypeable (h : Lands lines i j) : j = Session.nextTypeable lines i := by
  rcases h with h | ⟨hnone, rfl⟩
  · exact Session.eq_nextTypeable h
  · have hge := Session.length_le_nextTypeable_iff.2 hnone
    rcases Nat.le_total lines.length i with hi | hi
    · rw [Session.nextTypeable_of_length_le hi, Nat.max_eq_left hi]
    · rw [Nat.max_eq_right hi]
      exact Nat.le_antisymm hge (Session.nextTypeable_le_length hi)

namespace Session

theorem lands_nextTypeable (lines : List Line) (i : Nat) :
    Lands lines i (nextTypeable lines i) := by
  rcases nextTypeable_cases lines i with h | hnone
  · exact .inl h
  · have hlands : Lands lines i (max i lines.length) := .inr ⟨hnone, rfl⟩
    rw [← hlands.eq_nextTypeable]
    exact hlands

theorem nextTypeable_nextTypeable (lines : List Line) (i : Nat) :
    nextTypeable lines (nextTypeable lines i) = nextTypeable lines i := by
  rcases lands_nextTypeable lines i with h | ⟨-, hend⟩
  · obtain ⟨l, hl, ht⟩ := h.typeable
    exact nextTypeable_of_typeable hl ht
  · apply nextTypeable_of_length_le
    rw [hend]
    exact Nat.le_max_right ..

/-- What leaving its line at `now` makes of a session. -/
structure LineLeft (s : Session) (lines : List Line) (now : Instant) (r : Reply Advance) :
    Prop where
  cursor : Lands lines (s.line + 1) r.session.line
  completed : ∀ i, i ∈ r.session.completed ↔
    i ∈ s.completed ∨ s.line ≤ i ∧ i < r.session.line
  frame : r.session = { s with
    line := r.session.line
    char := 0
    missed := false
    completed := r.session.completed
    endedAt := r.session.endedAt }
  told : r.answer = .nextLine ∧ r.session.endedAt = s.endedAt ∧ r.events = [.lineCompleted] ∨
    r.answer = .testFinished ∧ r.session.endedAt = some now ∧ r.events = [.testCompleted]
  finished_iff : r.answer = .testFinished ↔ ∀ l ∈ lines.drop (s.line + 1), l.isTypeable = false

/-- What skipping the lines with nothing to type makes of a session. -/
structure LinesSkipped (s : Session) (lines : List Line) (t : Session) : Prop where
  cursor : Lands lines s.line t.line
  frame : t = { s with line := t.line }
  settled : t.skipToTypeable lines = t

theorem lineLeft_advanceLine {s : Session} (h : nextIndex lines s.line = s.line + 1)
    (now : Instant) : s.LineLeft lines now (s.advanceLine lines now) := by
  have hlands : Lands lines (s.line + 1) (s.moveOn lines).line := lands_nextTypeable _ _
  have hcompleted := s.mem_completed_moveOn lines
  rw [advanceLine_eq h]
  rcases nextTypeable_cases lines (s.line + 1) with hnext | hnone
  · rw [if_pos hnext.lt_length]
    exact {
      cursor := hlands
      completed := hcompleted
      frame := rfl
      told := .inl ⟨rfl, rfl, rfl⟩
      finished_iff := ⟨fun h => (nomatch h), fun hnone => absurd hnone hnext.not_forall⟩ }
  · rw [if_neg (Nat.not_lt.2 (length_le_nextTypeable_iff.2 hnone))]
    exact {
      cursor := hlands
      completed := hcompleted
      frame := rfl
      told := .inr ⟨rfl, rfl, rfl⟩
      finished_iff := ⟨fun _ => hnone, fun _ => rfl⟩ }

theorem linesSkipped_skipToTypeable (s : Session) (lines : List Line) :
    s.LinesSkipped lines (s.skipToTypeable lines) := by
  rw [skipToTypeable_eq]
  refine ⟨lands_nextTypeable lines s.line, rfl, ?_⟩
  rw [skipToTypeable_eq, nextTypeable_nextTypeable]

end Session

end TypingTrainer
