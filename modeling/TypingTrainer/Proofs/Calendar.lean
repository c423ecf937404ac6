import TypingTrainer.Time.Calendar

namespace TypingTrainer.Time

theorem daysBeforeYear_succ (year : Int) :
    daysBeforeYear (year + 1) = daysBeforeYear year + if isLeap year then 366 else 365 := by
  simp only [daysBeforeYear, isLeap, Bool.and_eq_true, Bool.or_eq_true, beq_iff_eq, bne_iff_ne]
  split <;> omega

/-- The estimate of the year of a day is off by one at most. -/
theorem estimate_bounds (day : Int) :
    daysBeforeYear (day * 400 / 146097 - 1) ≤ day ∧
      day < daysBeforeYear (day * 400 / 146097 + 1 + 1) := by
  simp only [daysBeforeYear]
  constructor <;> omega

theorem yearOf_spec (day : Int) :
    daysBeforeYear (yearOf day) ≤ day ∧ day < daysBeforeYear (yearOf day + 1) := by
  obtain ⟨hlow, hhigh⟩ := estimate_bounds day
  rw [yearOf]
  generalize day * 400 / 146097 = estimate at *
  split
  · next hlt => exact ⟨hlow, by rwa [Int.sub_add_cancel]⟩
  · next hge =>
    split
    · next hle => exact ⟨hle, hhigh⟩
    · next hlt => exact ⟨Int.not_lt.1 hge, Int.not_le.1 hlt⟩

theorem sum_monthLengths (leap : Bool) :
    daysBefore 12 (monthLengths leap) = if leap then 366 else 365 := by
  cases leap <;> rfl

theorem splitMonths_spec (month : Nat) (lengths : List Nat) (day : Nat)
    (h : day < daysBefore lengths.length lengths) :
    ∃ i len, (splitMonths month lengths day).1 = month + i ∧ lengths[i]? = some len ∧
      1 ≤ (splitMonths month lengths day).2 ∧ (splitMonths month lengths day).2 ≤ len ∧
      daysBefore i lengths + ((splitMonths month lengths day).2 - 1) = day := by
  induction lengths generalizing month day with
  | nil => exact absurd h (Nat.not_lt_zero _)
  | cons len lengths ih =>
      rw [splitMonths]
      split
      · next hlt => exact ⟨0, len, rfl, rfl, Nat.succ_pos _, hlt, by simp [daysBefore]⟩
      · next hge =>
        rw [List.length_cons, daysBefore] at h
        obtain ⟨i, len', hmonth, hlen, hpos, hle, hday⟩ := ih (month + 1) (day - len) (by omega)
        refine ⟨i + 1, len', by omega, hlen, hpos, hle, ?_⟩
        rw [daysBefore]
        omega

namespace Date

/-- A day is so many days into its month, and the month into its year. -/
theorem ofEpochDay_spec (n : Int) :
    ∃ i len, (ofEpochDay n).month = 1 + i ∧
      (monthLengths (isLeap (ofEpochDay n).year))[i]? = some len ∧
      1 ≤ (ofEpochDay n).day ∧ (ofEpochDay n).day ≤ len ∧
      daysBeforeYear (ofEpochDay n).year +
        (daysBefore i (monthLengths (isLeap (ofEpochDay n).year)) +
          ((ofEpochDay n).day - 1) : Nat) = n + Time.epochDay := by
  have hdate : ofEpochDay n = ⟨yearOf (n + Time.epochDay),
      (splitMonths 1 (monthLengths (isLeap (yearOf (n + Time.epochDay))))
        (n + Time.epochDay - daysBeforeYear (yearOf (n + Time.epochDay))).toNat).1,
      (splitMonths 1 (monthLengths (isLeap (yearOf (n + Time.epochDay))))
        (n + Time.epochDay - daysBeforeYear (yearOf (n + Time.epochDay))).toNat).2⟩ := rfl
  obtain ⟨hlow, hhigh⟩ := yearOf_spec (n + Time.epochDay)
  rw [daysBeforeYear_succ] at hhigh
  rw [hdate]
  dsimp only
  generalize yearOf (n + Time.epochDay) = year at *
  have hday : (n + Time.epochDay - daysBeforeYear year).toNat <
      daysBefore (monthLengths (isLeap year)).length (monthLengths (isLeap year)) := by
    have hlength : (monthLengths (isLeap year)).length = 12 := rfl
    rw [hlength, sum_monthLengths]
    cases hleap : isLeap year <;>
      simp only [hleap, if_true, Bool.false_eq_true, if_false] at hhigh ⊢ <;> omega
  obtain ⟨i, len, hmonth, hlen, hpos, hle, heq⟩ := splitMonths_spec 1 _ _ hday
  exact ⟨i, len, hmonth, hlen, hpos, hle, by rw [heq]; omega⟩

theorem valid_ofEpochDay (n : Int) : (ofEpochDay n).valid = true := by
  obtain ⟨i, len, hmonth, hlen, hpos, hle, -⟩ := ofEpochDay_spec n
  rw [valid, hmonth, Nat.add_sub_cancel_left, hlen]
  simp [hpos, hle]

theorem epochDay_ofEpochDay (n : Int) : (ofEpochDay n).epochDay = n := by
  obtain ⟨i, len, hmonth, -, hpos, -, hday⟩ := ofEpochDay_spec n
  rw [epochDay, hmonth, Nat.add_sub_cancel_left]
  omega

theorem ofEpochDay_lt (n : Int) : (ofEpochDay n).month < 100 ∧ (ofEpochDay n).day < 100 := by
  obtain ⟨i, len, hmonth, hlen, -, hle, -⟩ := ofEpochDay_spec n
  have hi : i < 12 := (List.getElem?_eq_some_iff.1 hlen).1
  have hshort : len ≤ 31 := by
    have hall : ∀ leap, ∀ len ∈ monthLengths leap, len ≤ 31 := by decide
    exact hall _ len (List.mem_of_getElem? hlen)
  omega

end Date

end TypingTrainer.Time
