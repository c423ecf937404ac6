namespace TypingTrainer.Json

/-- A unit of a text as it is read: a character, or nothing for a byte that is part of none. -/
abbrev Symbol := Option Char

inductive Problem
  | cutShort
  | cutWord
  | cutNumber
  | malformed
  deriving DecidableEq

structure Numeral where
  negative : Bool
  whole : List Char
  fraction : List Char
  exponent : Option Int
  deriving DecidableEq

/-- The inside of a quoted text, escapes as they are written. Where a problem stops it, the symbol
that does so is the last. -/
structure Quoted where
  raw : List Symbol
  problem : Option Problem
  deriving DecidableEq

inductive Ending
  | closed
  | missing (p : Problem)
  | afterComma (p : Problem)
  deriving DecidableEq

def Ending.problem : Ending → Option Problem
  | closed => none
  | missing p => some p
  | afterComma p => some p

/-- A text read as far as its first problem. The problem stands at its place in the tree, and every
container around it ends with it. -/
inductive Node
  | null
  | bool (b : Bool)
  | number (n : Numeral)
  | string (q : Quoted)
  | array (items : List Node) (ending : Ending)
  | object (members : List (Quoted × Node)) (ending : Ending)
  | broken (p : Problem)

def Node.problem : Node → Option Problem
  | .string q => q.problem
  | .array _ ending => ending.problem
  | .object _ ending => ending.problem
  | .broken p => some p
  | .null | .bool _ | .number _ => none

def isBlankSymbol : Symbol → Bool
  | some c => c == ' ' || c == '\t' || c == '\n' || c == '\r'
  | none => false

def skipBlanks (input : List Symbol) : List Symbol := input.dropWhile isBlankSymbol

def byteSize : Symbol → Nat
  | some c => c.utf8Size
  | none => 1

def byteCount (input : List Symbol) : Nat := input.foldl (fun n s => n + byteSize s) 0

def isHex (c : Char) : Bool := c.isDigit || ('a' ≤ c && c ≤ 'f') || ('A' ≤ c && c ≤ 'F')

def isEscapable (c : Char) : Bool := "\"\\/bfnrt".toList.contains c

/-- Reads the inside of a quoted text and its closing quote. Four bytes have to follow an escape by
code, whatever they are. -/
def readQuoted : List Symbol → Quoted × List Symbol
  | [] => (⟨[], some .cutShort⟩, [])
  | some '"' :: rest => (⟨[], none⟩, rest)
  | some '\\' :: rest =>
    match rest with
    | some 'u' :: a :: b :: c :: d :: more =>
      if [a, b, c, d].all (·.any isHex) then
        let (q, after) := readQuoted more
        ({ q with raw := some '\\' :: some 'u' :: a :: b :: c :: d :: q.raw }, after)
      else (⟨[some '\\'], some .malformed⟩, [])
    | some 'u' :: few =>
      (⟨[some '\\'], some (if byteCount few < 4 then .cutShort else .malformed)⟩, [])
    | some c :: more =>
      if isEscapable c then
        let (q, after) := readQuoted more
        ({ q with raw := some '\\' :: some c :: q.raw }, after)
      else (⟨[some '\\'], some .malformed⟩, [])
    | [] => (⟨[some '\\'], some .cutShort⟩, [])
    | none :: _ => (⟨[some '\\'], some .malformed⟩, [])
  | some c :: rest =>
    if c < ' ' then (⟨[some c], some .malformed⟩, [])
    else
      let (q, after) := readQuoted rest
      ({ q with raw := some c :: q.raw }, after)
  | none :: rest =>
    let (q, after) := readQuoted rest
    ({ q with raw := none :: q.raw }, after)

def takeDigits : List Symbol → List Char × List Symbol
  | some c :: rest =>
    if c.isDigit then
      let (ds, after) := takeDigits rest
      (c :: ds, after)
    else ([], some c :: rest)
  | input => ([], input)

def numberStop (rest : List Symbol) : Problem := if rest.isEmpty then .cutNumber else .malformed

def digitsValue (ds : List Char) : Nat := ds.foldl (fun n c => 10 * n + (c.toNat - 48)) 0

def readExponent (input : List Symbol) : Except Problem (Option Int × List Symbol) :=
  let digits (sign : Int) (rest : List Symbol) : Except Problem (Option Int × List Symbol) :=
    match takeDigits rest with
    | ([], after) => .error (numberStop after)
    | (ds, after) => .ok (some (sign * digitsValue ds), after)
  match input with
  | some 'e' :: rest | some 'E' :: rest =>
    match rest with
    | some '-' :: more => digits (-1) more
    | some '+' :: more => digits 1 more
    | _ => digits 1 rest
  | _ => .ok (none, input)

def readFraction (input : List Symbol) : Except Problem (List Char × List Symbol) :=
  match input with
  | some '.' :: rest =>
    match takeDigits rest with
    | ([], after) => .error (numberStop after)
    | found => .ok found
  | _ => .ok ([], input)

def readNumber (input : List Symbol) : Except Problem (Numeral × List Symbol) := do
  let (negative, unsigned) := match input with
    | some '-' :: rest => (true, rest)
    | _ => (false, input)
  let (whole, afterWhole) := takeDigits unsigned
  if whole.isEmpty then throw (numberStop afterWhole)
  if whole.head? == some '0' && whole.length ≠ 1 then throw .malformed
  let (fraction, afterFraction) ← readFraction afterWhole
  let (exponent, rest) ← readExponent afterFraction
  return (⟨negative, whole, fraction, exponent⟩, rest)

def readWord : List Char → List Symbol → Option Problem × List Symbol
  | [], input => (none, input)
  | _ :: _, [] => (some .cutWord, [])
  | c :: cs, s :: rest => if s = some c then readWord cs rest else (some .malformed, [])

structure Read where
  node : Node
  rest : List Symbol

def readLiteral (word : List Char) (node : Node) (input : List Symbol) : Read :=
  match readWord word input with
  | (none, rest) => ⟨node, rest⟩
  | (some p, _) => ⟨.broken p, []⟩

mutual

def readValue : Nat → List Symbol → Read
  | 0, _ => ⟨.broken .cutShort, []⟩
  | fuel + 1, input =>
    match skipBlanks input with
    | [] => ⟨.broken .cutShort, []⟩
    | some '"' :: rest =>
      let (q, after) := readQuoted rest
      ⟨.string q, after⟩
    | some '[' :: rest =>
      match skipBlanks rest with
      | some ']' :: after => ⟨.array [] .closed, after⟩
      | [] => ⟨.array [] (.missing .cutShort), []⟩
      | input =>
        let (items, ending, after) := readItems fuel input
        ⟨.array items ending, after⟩
    | some '\x7b' :: rest =>
      match skipBlanks rest with
      | some '\x7d' :: after => ⟨.object [] .closed, after⟩
      | [] => ⟨.object [] (.missing .cutShort), []⟩
      | some '"' :: input =>
        let (members, ending, after) := readMembers fuel input
        ⟨.object members ending, after⟩
      | _ => ⟨.object [] (.missing .malformed), []⟩
    | some 'n' :: rest => readLiteral "ull".toList .null rest
    | some 't' :: rest => readLiteral "rue".toList (.bool true) rest
    | some 'f' :: rest => readLiteral "alse".toList (.bool false) rest
    | some c :: rest =>
      if c == '-' || c.isDigit then
        match readNumber (some c :: rest) with
        | .ok (n, after) => ⟨.number n, after⟩
        | .error p => ⟨.broken p, []⟩
      else ⟨.broken .malformed, []⟩
    | none :: _ => ⟨.broken .malformed, []⟩

def readItems : Nat → List Symbol → List Node × Ending × List Symbol
  | 0, _ => ([], .missing .cutShort, [])
  | fuel + 1, input =>
    let item := readValue fuel input
    match item.node.problem with
    | some p => ([item.node], .missing p, [])
    | none =>
      match skipBlanks item.rest with
      | [] => ([item.node], .missing .cutShort, [])
      | some ']' :: after => ([item.node], .closed, after)
      | some ',' :: rest =>
        match skipBlanks rest with
        | [] => ([item.node], .afterComma .cutShort, [])
        | some ']' :: _ => ([item.node], .afterComma .malformed, [])
        | input =>
          let (items, ending, after) := readItems fuel input
          (item.node :: items, ending, after)
      | _ => ([item.node], .missing .malformed, [])

def readMembers : Nat → List Symbol → List (Quoted × Node) × Ending × List Symbol
  | 0, _ => ([], .missing .cutShort, [])
  | fuel + 1, input =>
    let (key, afterKey) := readQuoted input
    match key.problem with
    | some p => ([(key, .broken p)], .missing p, [])
    | none =>
      match skipBlanks afterKey with
      | [] => ([(key, .broken .cutShort)], .missing .cutShort, [])
      | some ':' :: rest =>
        let value := readValue fuel rest
        match value.node.problem with
        | some p => ([(key, value.node)], .missing p, [])
        | none =>
          match skipBlanks value.rest with
          | [] => ([(key, value.node)], .missing .cutShort, [])
          | some '\x7d' :: after => ([(key, value.node)], .closed, after)
          | some ',' :: rest =>
            match skipBlanks rest with
            | [] => ([(key, value.node)], .afterComma .cutShort, [])
            | some '"' :: input =>
              let (members, ending, after) := readMembers fuel input
              ((key, value.node) :: members, ending, after)
            | _ => ([(key, value.node)], .afterComma .malformed, [])
          | _ => ([(key, value.node)], .missing .malformed, [])
      | _ => ([(key, .broken .malformed)], .missing .malformed, [])

end

def read (input : List Symbol) : Read := readValue (2 * input.length + 2) input

end TypingTrainer.Json
