import TypingTrainer.Stats.Decimal

namespace TypingTrainer.Stats

/-- What a column of whole numbers may hold. A text that reads as a number becomes one, and so does
a real that is whole; everything else stays what it is. -/
inductive Amount
  | integer (i : Int)
  | real (x : Float)
  | text (s : String)

namespace Amount

def minInteger : Int := -9223372036854775808

def maxInteger : Int := 9223372036854775807

def fits (i : Int) : Bool := minInteger ≤ i && i ≤ maxInteger

def isSpace (c : Char) : Bool :=
  c == ' ' || c == '\t' || c == '\n' || c == '\x0b' || c == '\x0c' || c == '\r'

def digitsValue (ds : List Char) : Nat := ds.foldl (fun n c => 10 * n + (c.toNat - 48)) 0

structure Scan where
  negative : Bool
  whole : List Char
  fraction : Option (List Char)
  exponent : Option Int
  rest : List Char

def scanSign : List Char → Bool × List Char
  | '-' :: rest => (true, rest)
  | '+' :: rest => (false, rest)
  | rest => (false, rest)

def scanFraction : List Char → Option (List Char) × List Char
  | '.' :: rest => (some (rest.takeWhile Char.isDigit), rest.dropWhile Char.isDigit)
  | rest => (none, rest)

/-- The value of the digits of an exponent. It does not grow further once it has five digits. -/
def exponentValue (ds : List Char) : Nat :=
  ds.foldl (fun n c => if n < 10000 then 10 * n + (c.toNat - 48) else 10000) 0

def scanExponent (cs : List Char) : Option Int × List Char :=
  match cs with
  | 'e' :: rest | 'E' :: rest =>
    let (negative, unsigned) := scanSign rest
    let ds := unsigned.takeWhile Char.isDigit
    if ds.isEmpty then (none, cs)
    else
      let e : Int := exponentValue ds
      (some (if negative then -e else e), unsigned.dropWhile Char.isDigit)
  | _ => (none, cs)

def scan (s : String) : Scan :=
  let (negative, unsigned) := scanSign (s.toList.dropWhile isSpace)
  let whole := unsigned.takeWhile Char.isDigit
  let (fraction, afterFraction) := scanFraction (unsigned.dropWhile Char.isDigit)
  let (exponent, rest) := scanExponent afterFraction
  ⟨negative, whole, fraction, exponent, rest.dropWhile isSpace⟩

namespace Scan

def hasDigits (n : Scan) : Bool := !n.whole.isEmpty || !(n.fraction.getD []).isEmpty

def isWhole (n : Scan) : Bool := n.fraction.isNone && n.exponent.isNone

def integer (n : Scan) : Int :=
  let v : Int := digitsValue n.whole
  if n.negative then -v else v

def real (n : Scan) : Float :=
  let x := Decimal.toFloat n.whole (n.fraction.getD []) (n.exponent.getD 0)
  if n.negative then -x else x

def amount (n : Scan) : Amount :=
  if n.isWhole && fits n.integer then .integer n.integer else .real n.real

end Scan

def wholeBound : Float := 9223372036854775808

def ofReal (x : Float) : Amount :=
  if -wholeBound < x && x < wholeBound && x.floor == x then .integer x.toInt64.toInt else .real x

def settle : Amount → Amount
  | real x => ofReal x
  | a => a

def ofText (s : String) : Amount :=
  let n := scan s
  if n.hasDigits && n.rest.isEmpty then n.amount.settle else .text s

def numberOf (s : String) : Amount :=
  let n := scan s
  if n.hasDigits then n.amount else .integer 0

def addOne : Amount → Amount
  | integer i => if fits (i + 1) then .integer (i + 1) else .real (Float.ofInt i + 1)
  | real x => .real (x + 1)
  | text s => .text s

def next (a : Amount) : Amount :=
  settle <| addOne <| match a with
    | text s => numberOf s
    | a => a

def below (a : Amount) (n : Nat) : Bool :=
  match a with
  | integer i => i < n
  | real x => x < Float.ofNat n
  | text _ => false

def max (a : Amount) (n : Nat) : Amount := if a.below n then .integer n else a

end Amount

end TypingTrainer.Stats
