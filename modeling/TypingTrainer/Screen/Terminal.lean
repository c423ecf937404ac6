import TypingTrainer.Key
import TypingTrainer.Screen
import TypingTrainer.Text.Width

namespace TypingTrainer

def Color.foregroundCode : Color → Nat
  | reset => 39
  | green => 32
  | white => 97
  | red => 31
  | darkGray => 90
  | yellow => 33
  | cyan => 36

def Color.backgroundCode (c : Color) : Nat := c.foregroundCode + 10

def Style.codes (s : Style) : List Nat :=
  0 :: s.foreground.foregroundCode :: s.background.backgroundCode ::
    ((if s.bold then [1] else []) ++ (if s.italic then [3] else []) ++
      if s.underlined then [4] else [])

def Style.sequence (s : Style) : String :=
  "\x1b[" ++ ";".intercalate (s.codes.map toString) ++ "m"

namespace Screen

def rowSequence (covered : Nat) : List Cell → String
  | [] => ""
  | c :: rest =>
    match covered with
    | k + 1 => rowSequence k rest
    | 0 => c.style.sequence ++ c.symbol ++ rowSequence (Text.width c.symbol.toList - 1) rest

def sequence (s : Screen) : String :=
  "\x1b[2J\x1b[H" ++ "\r\n".intercalate (s.rows.toList.map fun r => rowSequence 0 r.toList) ++
    (default : Style).sequence

end Screen

/-- The key behind a character that a terminal sends. A control character is a letter with control
held, apart from those that have keys of their own. -/
def Key.ofTerminal (c : Char) : Key :=
  match c with
  | '\t' => { code := .tab }
  | '\n' | '\r' => { code := .enter }
  | '\x1b' => { code := .esc }
  | '\x7f' => { code := .backspace }
  | c =>
    if 0 < c.toNat ∧ c.toNat < 27 then
      { code := .char (Char.ofNat (c.toNat + 96)), modifiers := { control := true } }
    else { code := .char c }

end TypingTrainer
