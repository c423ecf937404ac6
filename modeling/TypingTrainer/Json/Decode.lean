import TypingTrainer.Json.Node

namespace TypingTrainer.Json

/-- Why a text is no value of the wanted kind: it ends too early, it is no JSON, or it is JSON of
another shape. -/
inductive Fault
  | ended
  | malformed
  | shape
  deriving DecidableEq

def Problem.fault : Problem → Fault
  | .cutShort | .cutWord | .cutNumber => .ended
  | .malformed => .malformed

def Problem.skippedFault : Problem → Fault
  | .cutShort | .cutWord => .ended
  | .cutNumber | .malformed => .malformed

abbrev Decoder (α : Type) := Node → Except Fault α

theorem of_bind_ok {ε α β : Type} {x : Except ε α} {f : α → Except ε β} {b : β}
    (h : (x >>= f) = .ok b) : ∃ a, x = .ok a ∧ f a = .ok b := by
  cases x with
  | error e => exact nomatch h
  | ok a => exact ⟨a, rfl, h⟩

def skip : Decoder Unit := fun node =>
  match node.problem with
  | some p => .error p.skippedFault
  | none => .ok ()

def hexValue (c : Char) : Nat :=
  if c.isDigit then c.toNat - 48 else if 'a' ≤ c then c.toNat - 87 else c.toNat - 55

def hexCode (a b c d : Char) : Nat :=
  ((hexValue a * 16 + hexValue b) * 16 + hexValue c) * 16 + hexValue d

def isLowSurrogate (n : Nat) : Bool := 0xDC00 ≤ n && n ≤ 0xDFFF

def isHighSurrogate (n : Nat) : Bool := 0xD800 ≤ n && n ≤ 0xDBFF

def joinSurrogates (high low : Nat) : Char :=
  Char.ofNat (0x10000 + (high - 0xD800) * 0x400 + (low - 0xDC00))

def unescape : Char → Char
  | 'b' => '\x08'
  | 'f' => '\x0c'
  | 'n' => '\n'
  | 'r' => '\r'
  | 't' => '\t'
  | c => c

def characters (problem : Option Problem) : List Symbol → Except Fault (List Char)
  | [] =>
    match problem with
    | none => .ok []
    | some p => .error p.fault
  | some '\\' :: some 'u' :: some a :: some b :: some c :: some d :: rest =>
    let code := hexCode a b c d
    if isLowSurrogate code then .error .malformed
    else if isHighSurrogate code then
      match rest with
      | some '\\' :: some 'u' :: some a :: some b :: some c :: some d :: more =>
        if isLowSurrogate (hexCode a b c d) then do
          return joinSurrogates code (hexCode a b c d) :: (← characters problem more)
        else .error .malformed
      | [] | [some '\\'] => .error (problem.getD .malformed).fault
      | _ => .error .malformed
    else do
      return Char.ofNat code :: (← characters problem rest)
  | some '\\' :: some c :: rest => do return unescape c :: (← characters problem rest)
  | [some '\\'] => .error (problem.getD .malformed).fault
  | some c :: rest => do
    if c < ' ' then throw .malformed
    return c :: (← characters problem rest)
  | none :: _ => .error .malformed

def Quoted.text (q : Quoted) : Except Fault String := do
  return String.ofList (← characters q.problem q.raw)

def maxCount : Nat := 18446744073709551615

def gather (start : Nat) : List Char → Nat × Nat
  | [] => (start, 0)
  | d :: ds =>
    let next := 10 * start + (d.toNat - 48)
    if next ≤ maxCount then gather next ds else (start, ds.length + 1)

namespace Numeral

def count? (n : Numeral) : Option Nat :=
  if n.negative || !n.fraction.isEmpty || n.exponent.isSome then none
  else
    let v := digitsValue n.whole
    if v ≤ maxCount then some v else none

/-- Whether a number is beyond the range of 64-bit floating point, when it is computed as its digits
times a power of ten. Of the digits only those count that fit a 64-bit count. -/
def overflows (n : Numeral) : Bool :=
  let (whole, dropped) := gather 0 n.whole
  let (significand, shift) :=
    if dropped = 0 then
      let (both, cut) := gather whole n.fraction
      (both, - ((n.fraction.length - cut : Nat) : Int))
    else (whole, (dropped : Int))
  let exponent := shift + n.exponent.getD 0
  significand ≠ 0 && 0 ≤ exponent &&
    (308 < exponent ||
      (Float.ofNat significand * Float.ofScientific 1 false exponent.toNat).isInf)

end Numeral

def mismatch : Node → Fault
  | .broken p => p.fault
  | .string q =>
    match q.text with
    | .ok _ => .shape
    | .error e => e
  | .number n => if n.overflows then .malformed else .shape
  | .null | .bool _ | .array _ _ | .object _ _ => .shape

def decodeString : Decoder String
  | .string q => q.text
  | node => .error (mismatch node)

def decodeCount : Decoder Nat
  | .number n =>
    match n.count? with
    | some v => .ok v
    | none => .error (mismatch (.number n))
  | node => .error (mismatch node)

def decodeBool : Decoder Bool
  | .bool b => .ok b
  | node => .error (mismatch node)

def decodeNull : Decoder Unit
  | .null => .ok ()
  | node => .error (mismatch node)

def checkEnding (ending : Ending) : Except Fault Unit :=
  match ending.problem with
  | some p => .error p.fault
  | none => .ok ()

def decodeList {α : Type} (item : Decoder α) : Decoder (List α)
  | .array items ending => do
    let values ← items.mapM item
    checkEnding ending
    return values
  | node => .error (mismatch node)

def Quoted.count (q : Quoted) : Except Fault Nat :=
  let starts := match q.raw with
    | some c :: _ => c == '-' || c.isDigit
    | _ => false
  if !starts then .error .malformed
  else
    match readNumber (q.raw ++ if q.problem.isNone then [some '"'] else []) with
    | .error p => .error p.fault
    | .ok (n, rest) => do
      let v ← decodeCount (.number n)
      if rest.head? = some (some '"') then return v else throw .malformed

def decodeCountMap {α : Type} (value : Decoder α) : Decoder (List (Nat × α))
  | .object members ending => do
    let entries ← members.mapM fun (key, node) => do
      let k ← key.count
      return (k, ← value node)
    checkEnding ending
    return entries
  | node => .error (mismatch node)

def decodeName {α : Type} (ofName? : String → Option α) : Decoder α
  | .string q => do
    match ofName? (← q.text) with
    | some a => return a
    | none => throw .shape
  | .object members ending =>
    match members with
    | [] =>
      match ending.problem with
      | some p => .error p.fault
      | none => .error .malformed
    | (key, node) :: more => do
      let some a := ofName? (← key.text) | throw .shape
      decodeNull node
      if !more.isEmpty then throw .malformed
      match ending with
      | .closed => return a
      | .missing p => throw p.fault
      | .afterComma _ => throw .malformed
  | .broken .cutShort => .error .ended
  | _ => .error .malformed

structure RecordField (δ : Type) where
  name : String
  filled : δ → Bool
  fill : δ → Decoder δ

def RecordField.of {δ α : Type} (name : String) (get : δ → Option α) (set : δ → α → δ)
    (decode : Decoder α) : RecordField δ where
  name := name
  filled d := (get d).isSome
  fill d node := do return set d (← decode node)

def fillMembers {δ : Type} (fields : List (RecordField δ)) :
    δ → List (Quoted × Node) → Except Fault δ
  | d, [] => .ok d
  | d, (key, node) :: rest => do
    let name ← key.text
    match fields.find? fun f => f.name == name with
    | some f =>
      if f.filled d then throw .shape
      fillMembers fields (← f.fill d node) rest
    | none =>
      skip node
      fillMembers fields d rest

def fillItems {δ : Type} (ending : Ending) : List (RecordField δ) → δ → List Node → Except Fault δ
  | [], d, [] =>
    match ending with
    | .closed => .ok d
    | .missing p => .error p.fault
    | .afterComma _ => .error .malformed
  | [], _, _ :: _ => .error .malformed
  | _ :: _, d, [] => do
    checkEnding ending
    return d
  | f :: fields, d, node :: rest => do fillItems ending fields (← f.fill d node) rest

def decodeRecord {δ α : Type} (fields : List (RecordField δ)) (start : δ) (finish? : δ → Option α) :
    Decoder α
  | .object members ending => do
    let d ← fillMembers fields start members
    checkEnding ending
    match finish? d with
    | some a => return a
    | none => throw .shape
  | .array items ending => do
    let finish (d : δ) : Except Fault α :=
      match finish? d with
      | some a => .ok a
      | none => .error .shape
    let d ← fillItems ending fields start items
    finish d
  | node => .error (mismatch node)

def decodeText {α : Type} (decode : Decoder α) (input : List Symbol)
    (reader : List Symbol → Read := read) : Except Fault α := do
  let found := reader input
  let a ← decode found.node
  if (skipBlanks found.rest).isEmpty then return a else throw .malformed

end TypingTrainer.Json
