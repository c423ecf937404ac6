import TypingTrainer.Screen
import TypingTrainer.Text.Blank
import TypingTrainer.Text.Cluster
import TypingTrainer.Text.Width

namespace TypingTrainer

structure Glyph where
  symbol : List Char
  style : Style
  deriving DecidableEq

namespace Glyph

def width (g : Glyph) : Nat := Text.width g.symbol

def isBlank (g : Glyph) : Bool :=
  g.symbol == ['\u200B'] || (g.symbol.all Text.isBlank && g.symbol != ['\u00A0'])

end Glyph

namespace Paragraph

def glyphs (spans : List Span) : List Glyph :=
  spans.flatMap fun s =>
    ((Text.clusters s.text.toList).filter fun c => c != ['\n']).map fun c => ⟨c, s.style⟩

def totalWidth : List Glyph → Nat
  | [] => 0
  | g :: rest => g.width + totalWidth rest

/-- The glyphs that fit after `used` columns. One wider than the line is left out. -/
def fitFrom (width used : Nat) : List Glyph → List Glyph
  | [] => []
  | g :: rest =>
    if width < g.width then fitFrom width used rest
    else if width < used + g.width then []
    else g :: fitFrom width (used + g.width) rest

def fit (width : Nat) (line : List Glyph) : List Glyph := fitFrom width 0 line

/-- A line that is being broken: the lines that are done, the current one, and the word and the
blanks in front of it that are still to be placed. -/
structure Wrap where
  done : List (List Glyph) := []
  line : List Glyph := []
  blanks : List Glyph := []
  word : List Glyph := []
  afterWord : Bool := false

namespace Wrap

def place (w : Wrap) : Wrap :=
  { w with
    line := (if w.line.isEmpty then w.line else w.line ++ w.blanks) ++ w.word
    blanks := []
    word := [] }

def dropBlanks (room : Nat) : List Glyph → List Glyph
  | [] => []
  | g :: rest => if room < g.width then g :: rest else dropBlanks (room - g.width) rest

def breakLine (width : Nat) (w : Wrap) : Wrap :=
  { w with
    done := w.done ++ [w.line]
    line := []
    blanks := dropBlanks (width - totalWidth w.line) w.blanks }

def push (w : Wrap) (g : Glyph) : Wrap :=
  if g.isBlank then { w with blanks := w.blanks ++ [g], afterWord := false }
  else { w with word := w.word ++ [g], afterWord := true }

def step (width : Nat) (w : Wrap) (g : Glyph) : Wrap :=
  if width < g.width then w
  else
    let wordEnds := w.afterWord && g.isBlank
    let tooLong := w.line.isEmpty &&
      (width < totalWidth w.word + g.width || width < totalWidth w.blanks + g.width)
    let w := if wordEnds || tooLong then w.place else w
    let lineWidth := totalWidth w.line
    let full := width ≤ lineWidth ||
      (0 < g.width && width ≤ lineWidth + totalWidth w.blanks + totalWidth w.word)
    if full then
      let w := w.breakLine width
      if g.isBlank && w.blanks.isEmpty then w else w.push g
    else w.push g

def finish (w : Wrap) : List (List Glyph) :=
  let done :=
    if w.line.isEmpty && w.word.isEmpty && !w.blanks.isEmpty then w.done ++ [[]] else w.done
  let last := w.place.line
  let lines := if last.isEmpty then done else done ++ [last]
  if lines.isEmpty then [[]] else lines

end Wrap

/-- Breaks a line at its blanks. Blanks in front of a line are dropped, and a word longer than the
line is cut. -/
def wrap (width : Nat) (line : List Glyph) : List (List Glyph) :=
  (line.foldl (Wrap.step width) {}).finish

end Paragraph

namespace Screen

/-- Draws from column `x` on. A glyph without a width is not drawn, and the columns of a wide one
after its first are left alone. -/
def drawGlyphs (s : Screen) (x y : Nat) : List Glyph → Screen
  | [] => s
  | g :: rest =>
    if g.width = 0 then s.drawGlyphs x y rest
    else (s.put x y ⟨String.ofList g.symbol, g.style⟩).drawGlyphs (x + g.width) y rest

inductive Alignment
  | left
  | center

def Alignment.offset (room width : Nat) : Alignment → Nat
  | left => 0
  | center => room / 2 - width / 2

def drawLines (s : Screen) (r : Rect) (a : Alignment) (lines : List (List Glyph)) : Screen :=
  if r.isEmpty then s
  else
    (lines.take r.height).zipIdx.foldl (fun s (line, i) =>
      s.drawGlyphs (r.x + a.offset r.width (Paragraph.totalWidth line)) (r.y + i) line) s

def drawText (s : Screen) (r : Rect) (a : Alignment) (lines : List (List Span)) : Screen :=
  s.drawLines r a (lines.map fun l => Paragraph.fit r.width (Paragraph.glyphs l))

def drawWrapped (s : Screen) (r : Rect) (a : Alignment) (lines : List (List Span)) : Screen :=
  if r.isEmpty then s
  else s.drawLines r a (lines.flatMap fun l => Paragraph.wrap r.width (Paragraph.glyphs l))

end Screen

end TypingTrainer
