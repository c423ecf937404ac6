namespace TypingTrainer.Time

structure Date where
  year : Int
  month : Nat
  day : Nat
  deriving DecidableEq

def isLeap (year : Int) : Bool := year % 4 == 0 && (year % 100 != 0 || year % 400 == 0)

def monthLengths (leap : Bool) : List Nat :=
  [31, if leap then 29 else 28, 31, 30, 31, 30, 31, 31, 30, 31, 30, 31]

def daysBeforeYear (year : Int) : Int :=
  365 * year + (year + 3) / 4 - (year + 99) / 100 + (year + 399) / 400

/-- The year of a day counted from the first of the year zero. The estimate is off by one at
most. -/
def yearOf (day : Int) : Int :=
  let estimate := day * 400 / 146097
  if day < daysBeforeYear estimate then estimate - 1
  else if daysBeforeYear (estimate + 1) ≤ day then estimate + 1
  else estimate

def daysBefore : Nat → List Nat → Nat
  | n + 1, len :: rest => len + daysBefore n rest
  | _, _ => 0

def splitMonths (month : Nat) : List Nat → Nat → Nat × Nat
  | [], day => (month, day + 1)
  | len :: rest, day =>
    if day < len then (month, day + 1) else splitMonths (month + 1) rest (day - len)

def epochDay : Int := 719528

def Date.ofEpochDay (n : Int) : Date :=
  let day := n + epochDay
  let year := yearOf day
  let dayOfYear := (day - daysBeforeYear year).toNat
  let (month, dayOfMonth) := splitMonths 1 (monthLengths (isLeap year)) dayOfYear
  ⟨year, month, dayOfMonth⟩

namespace Date

def valid (d : Date) : Bool :=
  match (monthLengths (isLeap d.year))[d.month - 1]? with
  | some len => 1 ≤ d.month && 1 ≤ d.day && d.day ≤ len
  | none => false

def epochDay (d : Date) : Int :=
  daysBeforeYear d.year + daysBefore (d.month - 1) (monthLengths (isLeap d.year)) + (d.day - 1) -
    Time.epochDay

end Date

end TypingTrainer.Time
