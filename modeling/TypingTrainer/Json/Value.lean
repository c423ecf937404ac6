namespace TypingTrainer.Json

inductive Value
  | null
  | bool (b : Bool)
  | num (n : Nat)
  | str (s : String)
  | arr (items : List Value)
  | obj (members : List (String × Value))

/-- The blanks of a written form: a break in front of each item of a container, by its depth, and
the blanks after a colon. -/
structure Layout where
  lineBreak : Nat → List Char
  afterColon : List Char

namespace Layout

def compact : Layout := ⟨fun _ => [], []⟩

def pretty : Layout := ⟨fun depth => '\n' :: List.replicate (2 * depth) ' ', [' ']⟩

end Layout

def escapeChar (c : Char) : List Char :=
  match c with
  | '"' => ['\\', '"']
  | '\\' => ['\\', '\\']
  | '\x08' => ['\\', 'b']
  | '\t' => ['\\', 't']
  | '\n' => ['\\', 'n']
  | '\x0c' => ['\\', 'f']
  | '\r' => ['\\', 'r']
  | c =>
    if c.toNat < 0x20 then
      ['\\', 'u', '0', '0', Nat.digitChar (c.toNat / 16), Nat.digitChar (c.toNat % 16)]
    else [c]

def escape (s : List Char) : List Char := s.flatMap escapeChar

def quoted (s : String) : List Char := '"' :: escape s.toList ++ ['"']

namespace Value

mutual

def write (layout : Layout) (depth : Nat) : Value → List Char
  | null => "null".toList
  | bool true => "true".toList
  | bool false => "false".toList
  | num n => (toString n).toList
  | str s => quoted s
  | arr [] => "[]".toList
  | arr (v :: rest) =>
    '[' :: layout.lineBreak (depth + 1) ++ write layout (depth + 1) v ++
      writeItems layout (depth + 1) rest ++ layout.lineBreak depth ++ [']']
  | obj [] => "\x7b\x7d".toList
  | obj (m :: rest) =>
    '\x7b' :: layout.lineBreak (depth + 1) ++ writeMember layout (depth + 1) m ++
      writeMembers layout (depth + 1) rest ++ layout.lineBreak depth ++ ['\x7d']

def writeItems (layout : Layout) (depth : Nat) : List Value → List Char
  | [] => []
  | v :: rest =>
    ',' :: layout.lineBreak depth ++ write layout depth v ++ writeItems layout depth rest

def writeMember (layout : Layout) (depth : Nat) : String × Value → List Char
  | (k, v) => quoted k ++ ':' :: layout.afterColon ++ write layout depth v

def writeMembers (layout : Layout) (depth : Nat) : List (String × Value) → List Char
  | [] => []
  | m :: rest =>
    ',' :: layout.lineBreak depth ++ writeMember layout depth m ++ writeMembers layout depth rest

end

def text (layout : Layout) (v : Value) : String := String.ofList (v.write layout 0)

end Value

end TypingTrainer.Json
