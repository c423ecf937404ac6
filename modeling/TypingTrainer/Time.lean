import TypingTrainer.Time.Calendar

namespace TypingTrainer

/-- A moment as seconds since the Unix epoch and nanoseconds. A second of nanoseconds or more stands
for a leap second. -/
structure Moment where
  second : Int
  nano : Nat
  deriving DecidableEq

def Moment.ahead (m : Moment) (seconds : Int) : Moment := { m with second := m.second + seconds }

namespace Time

/-- A form of moments: the text of a moment in a zone so many seconds ahead of UTC, and the moment
of a text. -/
structure Form where
  write : Moment → Int → String
  read? : String → Option Moment

def padded (width n : Nat) : List Char :=
  let digits := Nat.toDigits 10 n
  List.replicate (width - digits.length) '0' ++ digits

def writeYear (year : Int) : List Char :=
  if 0 ≤ year ∧ year ≤ 9999 then padded 4 year.toNat
  else (if year < 0 then '-' else '+') :: padded 4 year.natAbs

def writeFraction (nano : Nat) : List Char :=
  if nano = 0 then []
  else if nano % 1000000 = 0 then '.' :: padded 3 (nano / 1000000)
  else if nano % 1000 = 0 then '.' :: padded 6 (nano / 1000)
  else '.' :: padded 9 nano

def nanosPerSecond : Nat := 1000000000

def secondsPerDay : Nat := 86400

/-- The minutes of a distance from UTC, a half counting as one. -/
def offsetMinutes (offset : Int) : Nat := (offset.natAbs + 30) / 60

def writeOffset (offset : Int) : List Char :=
  (if offset < 0 then '-' else '+') ::
    (padded 2 (offsetMinutes offset / 60) ++ ':' :: padded 2 (offsetMinutes offset % 60))

def write (m : Moment) (offset : Int := 0) : String :=
  let shown := m.ahead offset
  let date := Date.ofEpochDay (shown.second / secondsPerDay)
  let time := (shown.second % secondsPerDay).toNat
  let second := time % 60 + m.nano / nanosPerSecond
  String.ofList (writeYear date.year ++ '-' :: padded 2 date.month ++ '-' :: padded 2 date.day ++
    'T' :: padded 2 (time / 3600) ++ ':' :: padded 2 (time / 60 % 60) ++ ':' :: padded 2 second ++
    writeFraction (m.nano % nanosPerSecond) ++ writeOffset offset)

def readDigits : Nat → Nat → List Char → Option (Nat × List Char)
  | 0, acc, rest => some (acc, rest)
  | _ + 1, _, [] => none
  | n + 1, acc, c :: rest =>
    if c.isDigit then readDigits n (10 * acc + (c.toNat - 48)) rest else none

def readChar (c : Char) : List Char → Option (List Char)
  | d :: rest => if d = c then some rest else none
  | [] => none

def fractionValue (ds : List Char) : Nat :=
  ((ds ++ List.replicate 9 '0').take 9).foldl (fun n c => 10 * n + (c.toNat - 48)) 0

def readFraction : List Char → Option (Nat × List Char)
  | '.' :: rest =>
    let ds := rest.takeWhile Char.isDigit
    if ds.isEmpty then none else some (fractionValue ds, rest.drop ds.length)
  | rest => some (0, rest)

def readOffset : List Char → Option (Int × List Char)
  | c :: rest =>
    if c = 'Z' ∨ c = 'z' then some (0, rest)
    else if c = '+' ∨ c = '-' ∨ c = '−' then do
      let (hours, rest) ← readDigits 2 0 rest
      let rest ← readChar ':' rest
      let (minutes, rest) ← readDigits 2 0 rest
      if 60 ≤ minutes ∨ 24 ≤ hours then none
      else
        let seconds : Int := ((hours * 3600 + minutes * 60 : Nat) : Int)
        some (if c = '+' then seconds else -seconds, rest)
    else none
  | [] => none

def readDate (text : List Char) : Option (Date × List Char) := do
  let (year, rest) ← readDigits 4 0 text
  let rest ← readChar '-' rest
  let (month, rest) ← readDigits 2 0 rest
  let rest ← readChar '-' rest
  let (day, rest) ← readDigits 2 0 rest
  return (⟨year, month, day⟩, rest)

def readGap : List Char → Option (List Char)
  | 'T' :: rest | 't' :: rest | ' ' :: rest => some rest
  | _ => none

def readClock (text : List Char) : Option ((Nat × Nat × Nat) × List Char) := do
  let (hour, rest) ← readDigits 2 0 text
  let rest ← readChar ':' rest
  let (minute, rest) ← readDigits 2 0 rest
  let rest ← readChar ':' rest
  let (second, rest) ← readDigits 2 0 rest
  return ((hour, minute, second), rest)

/-- The moment of a day, the hours, minutes and seconds of a clock, and the distance from UTC. The
second 60 is a leap second wherever it comes. -/
def momentOf? (date : Date) (clock : Nat × Nat × Nat) (nano : Nat) (offset : Int) :
    Option Moment :=
  let (hour, minute, second) := clock
  if date.valid ∧ hour < 24 ∧ minute < 60 ∧ second ≤ 60 then
    some {
      second := date.epochDay * secondsPerDay +
        ((hour * 3600 + minute * 60 + min second 59 : Nat) : Int) - offset
      nano := nano + if second = 60 then nanosPerSecond else 0 }
  else none

def read? (text : String) : Option Moment := do
  let (date, rest) ← readDate text.toList
  let rest ← readGap rest
  let (clock, rest) ← readClock rest
  let (nano, rest) ← readFraction rest
  let (offset, rest) ← readOffset rest
  if rest.isEmpty then momentOf? date clock nano offset else none

def rfc3339 : Form := ⟨fun m offset => write m offset, read?⟩

end Time

end TypingTrainer
