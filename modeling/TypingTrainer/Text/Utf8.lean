namespace TypingTrainer.Text

abbrev Bytes := List UInt8

def continuations? (b : UInt8) : Option (Nat × Nat × Nat × Nat) :=
  let n := b.toNat
  if 0xC2 ≤ n && n ≤ 0xDF then some (1, n - 0xC0, 0x80, 0xBF)
  else if n = 0xE0 then some (2, 0, 0xA0, 0xBF)
  else if n = 0xED then some (2, 0xD, 0x80, 0x9F)
  else if 0xE1 ≤ n && n ≤ 0xEF then some (2, n - 0xE0, 0x80, 0xBF)
  else if n = 0xF0 then some (3, 0, 0x90, 0xBF)
  else if 0xF1 ≤ n && n ≤ 0xF3 then some (3, n - 0xF0, 0x80, 0xBF)
  else if n = 0xF4 then some (3, 4, 0x80, 0x8F)
  else none

def readContinuations : Nat → Nat → Nat → Nat → Bytes → Option Nat
  | 0, acc, _, _, _ => some acc
  | _ + 1, _, _, _, [] => none
  | k + 1, acc, lo, hi, b :: rest =>
    if lo ≤ b.toNat && b.toNat ≤ hi then
      readContinuations k (acc * 64 + (b.toNat - 0x80)) 0x80 0xBF rest
    else none

def decodeFrom : Nat → Bytes → List (Option Char)
  | _, [] => []
  | k + 1, _ :: rest => decodeFrom k rest
  | 0, b :: rest =>
    if b.toNat < 0x80 then some (Char.ofNat b.toNat) :: decodeFrom 0 rest
    else
      match continuations? b with
      | none => none :: decodeFrom 0 rest
      | some (k, bits, lo, hi) =>
        match readContinuations k bits lo hi rest with
        | none => none :: decodeFrom 0 rest
        | some code => some (Char.ofNat code) :: decodeFrom k rest

def decodeUtf8 (bytes : Bytes) : List (Option Char) := decodeFrom 0 bytes

def ofUtf8? (bytes : Bytes) : Option String :=
  ((decodeUtf8 bytes).mapM id).map String.ofList

def toUtf8 (s : String) : Bytes := s.toUTF8.toList

end TypingTrainer.Text
