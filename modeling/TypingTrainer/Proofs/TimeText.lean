import TypingTrainer.Proofs.Calendar
import TypingTrainer.Time
import Mathlib.Algebra.Ring.Nat

namespace TypingTrainer

/-- The distance from UTC in seconds that is written. -/
def Time.writtenOffset (offset : Int) : Int :=
  if offset < 0 then -(60 * offsetMinutes offset : Int) else 60 * offsetMinutes offset

namespace Moment

def year (m : Moment) : Int := (Time.Date.ofEpochDay (m.second / 86400)).year

/-- Nanoseconds make less than a second, but for a leap second at the end of a minute. -/
def Sound (m : Moment) : Prop :=
  m.nano < 1000000000 ∨ m.nano < 2000000000 ∧ m.second % 60 = 59

def writtenSecond (m : Moment) (offset : Int) : Nat :=
  ((m.ahead offset).second % 60).toNat + m.nano / 1000000000

/-- The text of a moment can be read: its year has four digits, and its distance from UTC is less
than a day. -/
structure Legible (m : Moment) (offset : Int) : Prop where
  year : 0 ≤ (m.ahead offset).year ∧ (m.ahead offset).year ≤ 9999
  distance : Time.offsetMinutes offset < 1440
  second : m.writtenSecond offset ≤ 60

instance (m : Moment) (offset : Int) : Decidable (m.Legible offset) :=
  decidable_of_iff ((0 ≤ (m.ahead offset).year ∧ (m.ahead offset).year ≤ 9999) ∧
      Time.offsetMinutes offset < 1440 ∧ m.writtenSecond offset ≤ 60)
    ⟨fun h => ⟨h.1, h.2.1, h.2.2⟩, fun h => ⟨h.year, h.distance, h.second⟩⟩

/-- The moment that is read from the text of `m`. The seconds of the distance from UTC are lost, and
only the second 60 is a leap second. -/
def kept (m : Moment) (offset : Int) : Moment where
  second := (m.ahead offset).second - (m.ahead offset).second % 60 +
    min (m.writtenSecond offset) 59 - Time.writtenOffset offset
  nano := m.nano % 1000000000 + if m.writtenSecond offset = 60 then 1000000000 else 0

/-- In a zone of whole minutes the moment is kept. -/
theorem kept_eq {m : Moment} {offset : Int} (hm : m.Sound) (hoffset : offset % 60 = 0) :
    m.kept offset = m := by
  have hwritten : Time.writtenOffset offset = offset := by
    simp only [Time.writtenOffset, Time.offsetMinutes]
    split <;> omega
  have hshown : (m.ahead offset).second = m.second + offset := rfl
  refine (Moment.mk.injEq ..).mpr ⟨?_, ?_⟩
  · rw [hwritten, writtenSecond, hshown]
    rcases hm with hm | ⟨hm, hleap⟩ <;> omega
  · rw [writtenSecond, hshown]
    rcases hm with hm | ⟨hm, hleap⟩ <;> split <;> omega

end Moment

namespace Time

/-- What is documented of writing a moment and reading the text. -/
structure Form.Faithful (form : Form) : Prop where
  read?_write (m : Moment) (offset : Int) :
    m.Legible offset → form.read? (form.write m offset) = some (m.kept offset)
  read?_write_eq_none (m : Moment) (offset : Int) :
    ¬ m.Legible offset → form.read? (form.write m offset) = none

variable {width n : Nat} {ds rest : List Char}

theorem length_padded (hwidth : 0 < width) (h : n < 10 ^ width) :
    (padded width n).length = width := by
  have hle : (Nat.toDigits 10 n).length ≤ width :=
    (Nat.length_toDigits_le_iff (by decide) hwidth).2 h
  rw [padded, List.length_append, List.length_replicate]
  omega

theorem isDigit_padded {c : Char} (h : c ∈ padded width n) : c.isDigit = true := by
  rcases List.mem_append.1 h with h | h
  · rw [List.eq_of_mem_replicate h]
    rfl
  · exact Nat.isDigit_of_mem_toDigits (by decide) (by decide) h

theorem value_padded (width n : Nat) : Nat.ofDigitChars 10 (padded width n) 0 = n := by
  rw [padded, Nat.ofDigitChars_append, Nat.ofDigitChars_replicate_zero, Nat.mul_zero,
    Nat.ofDigitChars_ten_toDigits]

theorem readChar_cons (c : Char) : readChar c (c :: rest) = some rest := if_pos rfl

theorem readDigits_append (acc : Nat) (rest : List Char) (h : ∀ c ∈ ds, c.isDigit = true) :
    readDigits ds.length acc (ds ++ rest) = some (Nat.ofDigitChars 10 ds acc, rest) := by
  induction ds generalizing acc with
  | nil => rfl
  | cons c ds ih =>
      rw [List.length_cons, List.cons_append, readDigits, if_pos (h c List.mem_cons_self),
        ih _ fun d hd => h d (List.mem_cons_of_mem _ hd)]
      rfl

theorem readDigits_padded (hwidth : 0 < width) (h : n < 10 ^ width) :
    readDigits width 0 (padded width n ++ rest) = some (n, rest) := by
  have hdigits : ∀ c ∈ padded width n, c.isDigit = true := fun _ hc => isDigit_padded hc
  have hread : readDigits (padded width n).length 0 (padded width n ++ rest) = _ :=
    readDigits_append 0 _ hdigits
  rwa [length_padded hwidth h, value_padded] at hread

theorem fractionValue_padded (hwidth : 0 < width) (hle : width ≤ 9) (h : n < 10 ^ width) :
    fractionValue (padded width n) = 10 ^ (9 - width) * n := by
  have hlength := length_padded hwidth h
  have htake : (padded width n ++ List.replicate 9 '0').take 9 =
      padded width n ++ List.replicate (9 - width) '0' := by
    rw [List.take_append, hlength, List.take_of_length_le (hlength.symm ▸ hle), List.take_replicate]
    congr 2
    omega
  have hvalue : fractionValue (padded width n) =
      Nat.ofDigitChars 10 ((padded width n ++ List.replicate 9 '0').take 9) 0 := by
    rw [Nat.ofDigitChars_eq_foldl]
    rfl
  rw [hvalue, htake, Nat.ofDigitChars_append, value_padded, Nat.ofDigitChars_replicate_zero]

theorem readFraction_padded {nano : Nat} {c : Char} (hwidth : 0 < width) (hle : width ≤ 9)
    (h : n < 10 ^ width) (hnano : 10 ^ (9 - width) * n = nano) (hc : c.isDigit = false) :
    readFraction ('.' :: padded width n ++ c :: rest) = some (nano, c :: rest) := by
  have htake : (padded width n ++ c :: rest).takeWhile Char.isDigit = padded width n := by
    rw [List.takeWhile_append_of_pos fun d hd => isDigit_padded hd,
      List.takeWhile_cons_of_neg (by simp [hc]), List.append_nil]
  have hempty : (padded width n).isEmpty = false := by
    rw [List.isEmpty_eq_false_iff]
    intro hnil
    have hlength := length_padded hwidth h
    rw [hnil, List.length_nil] at hlength
    omega
  rw [List.cons_append, readFraction]
  simp only [htake, hempty, fractionValue_padded hwidth hle h, hnano, List.drop_left]
  rfl

theorem readFraction_write {nano : Nat} {c : Char} (h : nano < 1000000000)
    (hc : c.isDigit = false) (hpoint : c ≠ '.') :
    readFraction (writeFraction nano ++ c :: rest) = some (nano, c :: rest) := by
  rw [writeFraction]
  split
  · next hzero =>
    rw [List.nil_append, readFraction.eq_def, hzero]
    split
    · next heq => exact absurd (List.cons.inj heq).1 hpoint
    · rfl
  · split
    · next hmilli => exact readFraction_padded (by decide) (by decide) (by omega) (by omega) hc
    · split
      · next hmicro => exact readFraction_padded (by decide) (by decide) (by omega) (by omega) hc
      · exact readFraction_padded (by decide) (by decide) (by omega) (by omega) hc

theorem readDigits_append_long (acc : Nat) (h : ∀ c ∈ ds, c.isDigit = true)
    (hlong : width < ds.length) :
    ∃ v d more, d.isDigit = true ∧ readDigits width acc (ds ++ rest) = some (v, d :: more) := by
  cases hdrop : ds.drop width with
  | nil => exact absurd (List.drop_eq_nil_iff.1 hdrop) (Nat.not_le.2 hlong)
  | cons d more =>
      have htake : ∀ c ∈ ds.take width, c.isDigit = true := fun c hc =>
        h c (List.mem_of_mem_take hc)
      have hread := readDigits_append acc (ds.drop width ++ rest) htake
      rw [List.length_take_of_le (Nat.le_of_lt hlong), ← List.append_assoc, List.take_append_drop,
        hdrop] at hread
      exact ⟨_, d, _, h d (List.mem_of_mem_drop (hdrop ▸ List.mem_cons_self)), hread⟩

theorem readDigits_padded_long (hwidth : 0 < width) (h : 10 ^ width ≤ n) (rest : List Char) :
    ∃ v d more, d.isDigit = true ∧
      readDigits width 0 (padded width n ++ rest) = some (v, d :: more) := by
  refine readDigits_append_long 0 (fun _ hc => isDigit_padded hc) (Nat.lt_of_not_le fun hle => ?_)
  have hdigits : (Nat.toDigits 10 n).length ≤ width := by
    rw [padded, List.length_append] at hle
    omega
  exact Nat.not_lt.2 h ((Nat.length_toDigits_le_iff (by decide) hwidth).1 hdigits)

theorem readChar_of_isDigit {c d : Char} (hd : d.isDigit = true) (hc : c.isDigit = false) :
    readChar c (d :: rest) = none := by
  refine if_neg ?_
  rintro rfl
  exact nomatch hd.symm.trans hc

theorem readFraction_of_isDigit {d : Char} (hd : d.isDigit = true) :
    readFraction (d :: rest) = some (0, d :: rest) := by
  rw [readFraction.eq_def]
  split
  · next heq =>
    obtain ⟨rfl, -⟩ := List.cons.inj heq
    exact nomatch hd
  · rfl

theorem readOffset_of_isDigit {d : Char} (hd : d.isDigit = true) :
    readOffset (d :: rest) = none := by
  have hne {c : Char} (hc : c.isDigit = false) : d ≠ c := by
    rintro rfl
    exact nomatch hd.symm.trans hc
  have hletter : ¬ (d = 'Z' ∨ d = 'z') := not_or.2 ⟨hne rfl, hne rfl⟩
  have hsign : ¬ (d = '+' ∨ d = '-' ∨ d = '−') :=
    not_or.2 ⟨hne rfl, not_or.2 ⟨hne rfl, hne rfl⟩⟩
  rw [readOffset, if_neg hletter, if_neg hsign]

theorem readOffset_cons {c : Char} (hc : c = '+' ∨ c = '-') :
    readOffset (c :: rest) = (readDigits 2 0 rest).bind fun (hours, rest) =>
      (readChar ':' rest).bind fun rest => (readDigits 2 0 rest).bind fun (minutes, rest) =>
        if 60 ≤ minutes ∨ 24 ≤ hours then none
        else some (if c = '+' then ((hours * 3600 + minutes * 60 : Nat) : Int)
          else -((hours * 3600 + minutes * 60 : Nat) : Int), rest) := by
  rcases hc with rfl | rfl <;> rfl

theorem readOffset_write (offset : Int) : readOffset (writeOffset offset) =
    if offsetMinutes offset < 1440 then some (writtenOffset offset, []) else none := by
  have hsign : (if offset < 0 then '-' else '+') = '+' ∨ (if offset < 0 then '-' else '+') = '-' :=
    by split <;> simp
  rw [writeOffset, readOffset_cons hsign]
  by_cases hlong : 100 ≤ offsetMinutes offset / 60
  · obtain ⟨v, d, more, hd, hread⟩ := readDigits_padded_long (by decide : 0 < 2) hlong _
    have hcolon : readChar ':' (d :: more) = none := readChar_of_isDigit hd rfl
    have hday : ¬ offsetMinutes offset < 1440 := by omega
    rw [hread, Option.bind_some, if_neg hday]
    dsimp only
    rw [hcolon]
    rfl
  · have hminutes : readDigits 2 0 (padded 2 (offsetMinutes offset % 60)) =
        some (offsetMinutes offset % 60, []) := by
      rw [← List.append_nil (padded 2 (offsetMinutes offset % 60))]
      exact readDigits_padded (by decide) (by omega)
    rw [readDigits_padded (by decide) (by omega), Option.bind_some]
    dsimp only
    rw [readChar_cons, Option.bind_some, hminutes, Option.bind_some]
    by_cases hday : offsetMinutes offset < 1440
    · rw [if_pos hday, if_neg (by omega)]
      refine congrArg (fun n => some (n, [])) ?_
      rw [writtenOffset]
      by_cases hneg : offset < 0
      · rw [if_pos hneg, if_pos hneg, if_neg (by decide)]
        omega
      · rw [if_neg hneg, if_neg hneg, if_pos rfl]
        omega
    · rw [if_neg hday, if_pos (.inr (by omega))]

variable {m : Moment} {offset : Int}

theorem toList_write (m : Moment) (offset : Int) :
    (write m offset).toList = writeYear (m.ahead offset).year ++
      '-' :: (padded 2 (Date.ofEpochDay ((m.ahead offset).second / 86400)).month ++
      '-' :: (padded 2 (Date.ofEpochDay ((m.ahead offset).second / 86400)).day ++
      'T' :: (padded 2 (((m.ahead offset).second % 86400).toNat / 3600) ++
      ':' :: (padded 2 (((m.ahead offset).second % 86400).toNat / 60 % 60) ++
      ':' :: (padded 2 (m.writtenSecond offset) ++
      (writeFraction (m.nano % 1000000000) ++ writeOffset offset)))))) := by
  have hsecond : ((m.ahead offset).second % 86400).toNat % 60 =
      ((m.ahead offset).second % 60).toNat := by omega
  rw [write, String.toList_ofList, Moment.writtenSecond, ← hsecond]
  simp only [List.append_assoc, List.cons_append]
  rfl

theorem readDate_write (hyear : 0 ≤ (m.ahead offset).year ∧ (m.ahead offset).year ≤ 9999) :
    readDate (writeYear (m.ahead offset).year ++
      '-' :: (padded 2 (Date.ofEpochDay ((m.ahead offset).second / 86400)).month ++
      '-' :: (padded 2 (Date.ofEpochDay ((m.ahead offset).second / 86400)).day ++ rest))) =
        some (Date.ofEpochDay ((m.ahead offset).second / 86400), rest) := by
  have hwritten : writeYear (m.ahead offset).year = padded 4 (m.ahead offset).year.toNat :=
    if_pos hyear
  have hyear' : ((m.ahead offset).year.toNat : Int) =
      (Date.ofEpochDay ((m.ahead offset).second / 86400)).year := Int.toNat_of_nonneg hyear.1
  obtain ⟨hmonth, hday⟩ := Date.ofEpochDay_lt ((m.ahead offset).second / 86400)
  rw [hwritten, readDate, readDigits_padded (by decide) (by omega)]
  dsimp only [Option.bind_eq_bind, Option.bind_some]
  rw [readChar_cons, Option.bind_some, readDigits_padded (by decide) hmonth, Option.bind_some,
    readChar_cons, Option.bind_some, readDigits_padded (by decide) hday, Option.bind_some, hyear']
  rfl

theorem readClock_padded {hour minute second : Nat} (hhour : hour < 100) (hminute : minute < 100)
    (hsecond : second < 100) :
    readClock (padded 2 hour ++ ':' :: (padded 2 minute ++ ':' :: (padded 2 second ++ rest))) =
      some ((hour, minute, second), rest) := by
  rw [readClock, readDigits_padded (by decide) hhour]
  dsimp only [Option.bind_eq_bind, Option.bind_some]
  rw [readChar_cons, Option.bind_some, readDigits_padded (by decide) hminute, Option.bind_some,
    readChar_cons, Option.bind_some, readDigits_padded (by decide) hsecond]
  rfl

theorem readClock_padded_long {hour minute second : Nat} (hhour : hour < 100)
    (hminute : minute < 100) (hsecond : 100 ≤ second) :
    ∃ clock d more, d.isDigit = true ∧
      readClock (padded 2 hour ++ ':' :: (padded 2 minute ++ ':' :: (padded 2 second ++ rest))) =
        some (clock, d :: more) := by
  obtain ⟨v, d, more, hd, hread⟩ :=
    readDigits_padded_long (by decide : 0 < 2) hsecond rest
  refine ⟨(hour, minute, v), d, more, hd, ?_⟩
  rw [readClock, readDigits_padded (by decide) hhour]
  dsimp only [Option.bind_eq_bind, Option.bind_some]
  rw [readChar_cons, Option.bind_some, readDigits_padded (by decide) hminute, Option.bind_some,
    readChar_cons, Option.bind_some, hread]
  rfl

/-- A year of other than four digits begins with a sign, which is not read. -/
theorem readDate_writeYear {year : Int} (hyear : ¬ (0 ≤ year ∧ year ≤ 9999)) :
    readDate (writeYear year ++ rest) = none := by
  have hwritten : writeYear year =
      (if year < 0 then '-' else '+') :: padded 4 year.natAbs := if_neg hyear
  have hsign : (if year < 0 then '-' else '+').isDigit = false := by
    split <;> rfl
  rw [hwritten, List.cons_append, readDate, readDigits, hsign]
  rfl

theorem momentOf?_written (m : Moment) (offset : Int) :
    momentOf? (Date.ofEpochDay ((m.ahead offset).second / 86400))
      (((m.ahead offset).second % 86400).toNat / 3600,
        ((m.ahead offset).second % 86400).toNat / 60 % 60, m.writtenSecond offset)
      (m.nano % 1000000000) (writtenOffset offset) =
        if m.writtenSecond offset ≤ 60 then some (m.kept offset) else none := by
  have hvalid := Date.valid_ofEpochDay ((m.ahead offset).second / 86400)
  have hepoch := Date.epochDay_ofEpochDay ((m.ahead offset).second / 86400)
  by_cases hsecond : m.writtenSecond offset ≤ 60
  · rw [momentOf?, hvalid, hepoch, if_pos hsecond, if_pos ⟨rfl, by omega, by omega, hsecond⟩]
    refine congrArg some ((Moment.mk.injEq ..).mpr ⟨?_, rfl⟩)
    simp only [secondsPerDay]
    omega
  · rw [momentOf?, if_neg hsecond, if_neg fun h => hsecond h.2.2.2]

theorem read?_write_eq (hyear : 0 ≤ (m.ahead offset).year ∧ (m.ahead offset).year ≤ 9999)
    (hsecond : m.writtenSecond offset < 100) : read? (write m offset) =
      if offsetMinutes offset < 1440 ∧ m.writtenSecond offset ≤ 60 then some (m.kept offset)
      else none := by
  have hfraction : readFraction (writeFraction (m.nano % 1000000000) ++ writeOffset offset) =
      some (m.nano % 1000000000, writeOffset offset) :=
    readFraction_write (by omega) (by split <;> rfl) (by split <;> decide)
  rw [read?, toList_write, readDate_write hyear]
  -- Past the `T` the same reads stand in each branch; only the first is opened.
  change (readClock _).bind _ = _
  rw [readClock_padded (by omega) (by omega) hsecond]
  dsimp only [Option.bind_eq_bind, Option.bind_some]
  rw [hfraction, Option.bind_some, readOffset_write]
  by_cases hoffset : offsetMinutes offset < 1440
  · rw [if_pos hoffset, Option.bind_some]
    simp only [hoffset, true_and]
    exact momentOf?_written m offset
  · rw [if_neg hoffset, if_neg fun h => hoffset h.1]
    rfl

theorem read?_write (h : m.Legible offset) : read? (write m offset) = some (m.kept offset) := by
  rw [read?_write_eq h.year (Nat.lt_of_le_of_lt h.second (by decide)),
    if_pos ⟨h.distance, h.second⟩]

theorem read?_write_eq_none (h : ¬ m.Legible offset) : read? (write m offset) = none := by
  by_cases hyear : 0 ≤ (m.ahead offset).year ∧ (m.ahead offset).year ≤ 9999
  · by_cases hlong : 100 ≤ m.writtenSecond offset
    · have hhour : ((m.ahead offset).second % 86400).toNat / 3600 < 100 := by omega
      have hminute : ((m.ahead offset).second % 86400).toNat / 60 % 60 < 100 := by omega
      obtain ⟨clock, d, more, hd, hread⟩ := readClock_padded_long hhour hminute hlong
      rw [read?, toList_write, readDate_write hyear]
      change (readClock _).bind _ = none
      rw [hread]
      dsimp only [Option.bind_eq_bind, Option.bind_some]
      rw [readFraction_of_isDigit hd, Option.bind_some, readOffset_of_isDigit hd]
      rfl
    · rw [read?_write_eq hyear (Nat.lt_of_not_le hlong)]
      exact if_neg fun hrest => h ⟨hyear, hrest.1, hrest.2⟩
  · rw [read?, toList_write, readDate_writeYear hyear]
    rfl

theorem faithful_rfc3339 : rfc3339.Faithful :=
  ⟨fun _ _ => read?_write, fun _ _ => read?_write_eq_none⟩

end Time

end TypingTrainer
