import TypingTrainer.Screen
import TypingTrainer.Text.Width

namespace TypingTrainer

structure Display where
  shown : Screen
  told : Screen

namespace Display

def blank (width height : Nat) : Display := ⟨.blank width height, .blank width height⟩

/-- A row of the display from what it shows, the row told of last and the next one. The cell behind
a wide symbol is covered by it and keeps what it shows. As far as a wide symbol of either row
reaches, cells are shown again even if they are not new. -/
def drawRow (covered : Bool) (reach : Nat) : List Cell → List Cell → List Cell → List Cell
  | cell :: shown, last :: told, new :: next =>
    let width := Text.width new.symbol.toList
    let further := max (max width (Text.width last.symbol.toList)) reach - 1
    let isNew := decide (new ≠ last) || 0 < reach
    (if isNew && !covered then new else cell) :: drawRow (1 < width) further shown told next
  | shown, _, _ => shown

def draw (d : Display) (next : Screen) : Display where
  shown := ⟨((d.shown.rows.zip d.told.rows).zip next.rows).map fun ((shown, told), next) =>
    (drawRow false 0 shown.toList told.toList next.toList).toArray⟩
  told := next

def drawAll (d : Display) (screens : List Screen) : Display := screens.foldl draw d

end Display

end TypingTrainer
