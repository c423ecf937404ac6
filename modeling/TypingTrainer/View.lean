import TypingTrainer.Practice
import TypingTrainer.Screen.Paragraph

namespace TypingTrainer.View

def margin : Nat := 2

def gutterWidth : Nat := 4

def tabWidth : Nat := 4

namespace Styles

def typed : Style := { foreground := .green, bold := true }

def cursor : Style := { bold := true, underlined := true }

def cursorError : Style := { foreground := .white, background := .red, bold := true }

def untyped : Style := {}

def skipped : Style := { foreground := .darkGray }

def gutter : Style := { foreground := .darkGray }

def gutterCurrent : Style := { foreground := .yellow }

def title : Style := { bold := true }

def stats : Style := { foreground := .cyan }

def legend : Style := { italic := true }

def paused : Style := { foreground := .yellow, bold := true }

def complete : Style := { foreground := .green, bold := true }

end Styles

inductive Status
  | completed
  | current
  | pending
  deriving DecidableEq

def status (s : Session) (i : Nat) : Status :=
  if i = s.line ∧ s.phase ≠ .complete then .current
  else if i ∈ s.completed.toList then .completed
  else .pending

/-- The first line drawn: the current one stands in the middle as far as the lines reach. -/
def firstLine (count height cursor : Nat) : Nat := min (cursor - height / 2) (count - height)

def window (lines : List Line) (s : Session) (height : Nat) : List (Nat × Status × Line) :=
  let first := firstLine lines.length height s.line
  ((lines.drop first).take height).zipIdx.map fun (l, i) => (first + i, status s (first + i), l)

def expandTabs (cs : List Char) : List Char :=
  cs.flatMap fun c => if c = '\t' then List.replicate tabWidth ' ' else [c]

def charStyle (s : Session) (position : Nat) : Style :=
  if position < s.char then Styles.typed
  else if position = s.char then if s.missed then Styles.cursorError else Styles.cursor
  else Styles.untyped

/-- The first position of every typeable token in the typing sequence: gathered from the last
position on, so that the first one stays. -/
def tokenStarts (l : Line) : SortedMap Nat Nat :=
  SortedMap.ofList (l.charMap.entries.reverse.map fun e => (e.2.token, e.1))

def currentSpans (s : Session) (start : Nat) (text : List Char) : List Span :=
  text.zipIdx.map fun (c, i) => ⟨c.toString, charStyle s (start + i)⟩

def tokenSpans (starts : SortedMap Nat Nat) (status : Status) (s : Session) (token : Nat)
    (text : List Char) : List Span :=
  match starts.get? token, status with
  | none, _ => [⟨String.ofList text, Styles.skipped⟩]
  | some _, .completed => [⟨String.ofList text, Styles.typed⟩]
  | some _, .pending => [⟨String.ofList text, Styles.untyped⟩]
  | some start, .current => currentSpans s start text

inductive Segment
  | padding (columns : Nat)
  | token (spans : List Span)
  deriving DecidableEq

def Segment.spans : Segment → List Span
  | padding n => [⟨String.ofList (List.replicate n ' '), {}⟩]
  | token spans => spans

def segmentsFrom (starts : SortedMap Nat Nat) (status : Status) (s : Session) (column : Nat) :
    List (Token × Nat) → List Segment
  | [] => []
  | (t, i) :: rest =>
    let text := expandTabs t.text.toList
    let token := Segment.token (tokenSpans starts status s i text)
    let more := segmentsFrom starts status s (max column t.startCol + Text.width text) rest
    if column < t.startCol then .padding (t.startCol - column) :: token :: more else token :: more

def segments (l : Line) (status : Status) (s : Session) : List Segment :=
  segmentsFrom (tokenStarts l) status s 0 l.tokens.zipIdx

def padLeft (width : Nat) (s : String) : String :=
  String.ofList (List.replicate (width - s.length) ' ') ++ s

def gutter (l : Line) (status : Status) : Span :=
  ⟨padLeft (gutterWidth - 1) (toString (l.number + 1)) ++ " ",
    if status = .current then Styles.gutterCurrent else Styles.gutter⟩

def lineSpans (l : Line) (status : Status) (s : Session) : List Span :=
  gutter l status :: (segments l status s).flatMap Segment.spans

def titleText (p : Practice) : String :=
  "treetype · " ++ p.source.language.name ++ " · " ++ p.preset.rules.description

def statsText (p : Practice) (now : Instant) : String :=
  let stats := p.liveStats now
  stats.language.name ++ " · " ++ stats.presetTitle ++ "   line " ++
    toString (min stats.line (max stats.totalLines 1)) ++ "/" ++ toString stats.totalLines ++
    "   " ++ stats.progress ++ "   " ++ toString stats.wpm ++ " wpm   " ++
    toString stats.accuracy ++ "% acc   " ++ Clock.format (p.elapsed now).seconds

def pauseLabel : String := Key.pauseCode.label

def resetLabel : String := Key.resetCode.label

def legendText : Phase → String
  | .idle => "start typing to begin / (" ++ resetLabel ++
      ") reset / (ctrl+p) mode / (ctrl+l) language / (ctrl+c) quit"
  | .running | .paused => "(" ++ pauseLabel ++ ") pause / (" ++ resetLabel ++
      ") reset / (ctrl+p) mode / (ctrl+c) quit"
  | .complete => "(" ++ resetLabel ++ ") again / (ctrl+l) language / (ctrl+c) quit"

structure Layout where
  title : Rect
  code : Rect
  stats : Rect
  legend : Rect

def layout (width height : Nat) : Layout :=
  let row (y h : Nat) : Rect := ⟨margin, y, width - 2 * margin, h⟩
  let title := if 2 ≤ height then 1 else 0
  let stats := if 3 ≤ height then 1 else 0
  let legend := if 4 ≤ height then 1 else 0
  let code := height - title - stats - legend
  { title := row 0 title
    code := row title code
    stats := row (title + code) stats
    legend := row (title + code + stats) legend }

def drawPause (screen : Screen) (whole : Rect) : Screen :=
  let hint := pauseLabel ++ " to resume / " ++ resetLabel ++ " to reset"
  let panel := whole.centered (Text.width hint.toList + 6) 4
  ((screen.clear panel).frame panel).drawText panel.inner .center
    [[⟨"PAUSED", Styles.paused⟩], [⟨hint, {}⟩]]

def drawResult (screen : Screen) (whole : Rect) (r : Result) : Screen :=
  let panel := whole.centered 36 6
  ((screen.clear panel).frame panel).drawWrapped panel.inner .center [
    [⟨"Test complete", Styles.complete⟩],
    [⟨toString r.wpm ++ " wpm   " ++ toString r.accuracy ++ "% acc", {}⟩],
    [⟨"time " ++ r.time, {}⟩],
    [⟨"(" ++ resetLabel ++ ") again", Styles.legend⟩]]

def drawCode (screen : Screen) (area : Rect) (lines : List Line) (s : Session)
    (paint : Screen → Rect → Screen.Alignment → List (List Span) → Screen := Screen.drawText) :
    Screen :=
  paint screen area .left
    ((window lines s area.height).map fun (_, status, l) => lineSpans l status s)

def draw (p : Practice) (now : Instant) (width height : Nat) : Screen :=
  let areas := layout width height
  let whole : Rect := ⟨0, 0, width, height⟩
  let screen := (Screen.blank width height).drawText areas.title .center
    [[⟨titleText p, Styles.title⟩]]
  let screen := drawCode screen areas.code p.lines p.session
  let screen := screen.drawText areas.stats .center [[⟨statsText p now, Styles.stats⟩]]
  let screen := screen.drawText areas.legend .center [[⟨legendText p.phase, Styles.legend⟩]]
  match p.phase, p.result with
  | .paused, _ => drawPause screen whole
  | .complete, some r => drawResult screen whole r
  | _, _ => screen

end TypingTrainer.View
