namespace TypingTrainer.Stats

structure Binary where
  significand : Nat
  exponent : Int
  deriving DecidableEq

namespace Binary

/-- Keeps so many bits of the significand and rounds to the nearest, in the middle to the even
one. -/
def round (bits : Nat) (b : Binary) : Binary :=
  let cut := b.significand.log2 + 1 - bits
  let kept := b.significand >>> cut
  let unit := 1 <<< cut
  let rest := 2 * (b.significand - kept * unit)
  { significand := if unit < rest ∨ (rest = unit ∧ kept % 2 = 1) then kept + 1 else kept
    exponent := b.exponent + (cut : Int) }

def mul (a b : Binary) : Binary :=
  round 64 ⟨a.significand * b.significand, a.exponent + b.exponent⟩

def mulTimes (b : Binary) : Nat → Binary → Binary
  | 0, a => a
  | n + 1, a => mulTimes b n (a.mul b)

def mulPower (hundredth tenth one : Binary) (n : Nat) (a : Binary) : Binary :=
  one.mulTimes (n % 10) (tenth.mulTimes (n % 100 / 10) (hundredth.mulTimes (n / 100) a))

def mulTen : Nat → Binary → Binary :=
  mulPower ⟨10542197943230523224, 269⟩ ⟨10000000000, 0⟩ ⟨10, 0⟩

def divTen : Nat → Binary → Binary :=
  mulPower ⟨16139061738043178685, -396⟩ ⟨15845632502852867519, -97⟩ ⟨14757395258967641293, -67⟩

def toFloat (b : Binary) : Float :=
  let b := b.round 53
  (Float.ofNat b.significand).scaleB b.exponent

end Binary

namespace Decimal

def digitBound : Nat := 1844674407370955160

def gather (s : Nat) : List Char → Nat × Nat
  | [] => (s, 0)
  | d :: ds => if s < digitBound then gather (10 * s + (d.toNat - 48)) ds else (s, ds.length + 1)

def raise (s : Nat) : Nat → Nat × Nat
  | 0 => (s, 0)
  | n + 1 => if s < digitBound then raise (10 * s) n else (s, n + 1)

def lower (s : Nat) : Nat → Nat × Nat
  | 0 => (s, 0)
  | n + 1 => if s % 10 = 0 then lower (s / 10) n else (s, n + 1)

def toFloat (whole fraction : List Char) (power : Int) : Float :=
  let (s, dropped) := gather 0 whole
  let (s, left) := gather s fraction
  let power := power + (dropped : Int) - ((fraction.length - left : Nat) : Int)
  if s = 0 then 0
  else if 0 ≤ power then
    let (s, n) := raise s power.toNat
    (Binary.mulTen n ⟨s, 0⟩).toFloat
  else
    let (s, n) := lower s power.natAbs
    (Binary.divTen n ⟨s, 0⟩).toFloat

end Decimal

end TypingTrainer.Stats
