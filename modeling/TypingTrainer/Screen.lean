namespace TypingTrainer

inductive Color
  | reset
  | green
  | white
  | red
  | darkGray
  | yellow
  | cyan
  deriving DecidableEq

structure Style where
  foreground : Color := .reset
  background : Color := .reset
  bold : Bool := false
  italic : Bool := false
  underlined : Bool := false
  deriving DecidableEq, Inhabited

structure Span where
  text : String
  style : Style
  deriving DecidableEq

structure Cell where
  symbol : String
  style : Style
  deriving DecidableEq

def Cell.blank : Cell := ⟨" ", {}⟩

structure Rect where
  x : Nat
  y : Nat
  width : Nat
  height : Nat
  deriving DecidableEq

namespace Rect

def isEmpty (r : Rect) : Bool := r.width == 0 || r.height == 0

def inner (r : Rect) : Rect :=
  ⟨min (r.x + 1) (r.x + r.width), min (r.y + 1) (r.y + r.height), r.width - 2, r.height - 2⟩

def centered (r : Rect) (width height : Nat) : Rect :=
  let w := min width r.width
  let h := min height r.height
  ⟨r.x + (r.width - w) / 2, r.y + (r.height - h) / 2, w, h⟩

end Rect

structure Screen where
  rows : Array (Array Cell)
  deriving DecidableEq

namespace Screen

def blank (width height : Nat) : Screen := ⟨Array.replicate height (Array.replicate width .blank)⟩

def put (s : Screen) (x y : Nat) (c : Cell) : Screen :=
  ⟨s.rows.modify y fun row => row.setIfInBounds x c⟩

def fillRow (s : Screen) (x y width : Nat) (c : Cell) : Screen :=
  (List.range' x width).foldl (fun s x => s.put x y c) s

def fillColumn (s : Screen) (x y height : Nat) (c : Cell) : Screen :=
  (List.range' y height).foldl (fun s y => s.put x y c) s

def clear (s : Screen) (r : Rect) : Screen :=
  (List.range' r.y r.height).foldl (fun s y => s.fillRow r.x y r.width .blank) s

/-- A frame along the inside of a rectangle. Of corners that fall together the upper and then the
left one stays. -/
def frame (s : Screen) (r : Rect) : Screen :=
  if r.isEmpty then s
  else
    let line (symbol : String) : Cell := ⟨symbol, {}⟩
    let right := r.x + r.width - 1
    let bottom := r.y + r.height - 1
    let sides := (s.fillColumn r.x r.y r.height (line "│")).fillRow r.x r.y r.width (line "─")
    let sides := sides.fillColumn right r.y r.height (line "│")
    let sides := sides.fillRow r.x bottom r.width (line "─")
    (((sides.put right bottom (line "┘")).put right r.y (line "┐")).put r.x bottom (line "└")).put
      r.x r.y (line "┌")

end Screen

end TypingTrainer
