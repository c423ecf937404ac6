namespace TypingTrainer

/-- Nanoseconds since the Unix epoch. -/
abbrev Instant := Int

/-- Nanoseconds. -/
abbrev Duration := Nat

namespace Clock

/-- The time from `earlier` to `later`, zero when the clock went backwards. -/
def between (earlier later : Instant) : Duration := (later - earlier).toNat

def nanosPerSecond : Nat := 1000000000

def seconds (d : Duration) : Float :=
  Float.ofNat (d / nanosPerSecond) + Float.ofNat (d % nanosPerSecond) / Float.ofNat nanosPerSecond

structure Reading where
  sinceStart : Duration
  paused : Duration
  openPause : Duration
  deriving DecidableEq

namespace Reading

def zero : Reading := ⟨0, 0, 0⟩

/-- The running time, never negative. Each of the three durations is taken as a number before they
are subtracted. -/
def elapsed {α : Type} [OfNat α 0] [LT α] [DecidableLT α] [Sub α] (number : Duration → α)
    (r : Reading) : α :=
  let left := number r.sinceStart - number r.paused - number r.openPause
  if 0 < left then left else 0

def duration (r : Reading) : Duration := (r.elapsed Int.ofNat).toNat

theorem duration_eq_sub (r : Reading) : r.duration = r.sinceStart - r.paused - r.openPause := by
  have hcut (a b c : Nat) :
      (if (0 : Int) < a - b - c then (a - b - c : Int) else 0).toNat = a - b - c := by
    split <;> omega
  exact hcut r.sinceStart r.paused r.openPause

def seconds (r : Reading) : Float := r.elapsed Clock.seconds

end Reading

def roundToCount (x : Float) : Nat := x.round.toUInt32.toNat

def wpm (typed : Nat) (seconds : Float) : Nat :=
  if seconds.isNaN || seconds <= 0 then 0
  else roundToCount ((Float.ofNat typed / 5) / (seconds / 60))

/-- The share of right keystrokes in percent, 100 until one of them was right. The sum is a word of
64 bits like the counts. -/
def accuracy (typed errors : Nat) : Nat :=
  if typed = 0 then 100
  else roundToCount (100 * Float.ofNat typed / Float.ofNat ((typed + errors) % UInt64.size))

def format (seconds : Float) : String :=
  let whole := if seconds.isFinite && 0 < seconds then seconds.floor.toUInt64.toNat else 0
  let s := whole % 60
  toString (whole / 60) ++ ":" ++ (if s < 10 then "0" else "") ++ toString s

end Clock

end TypingTrainer
