import TypingTrainer.Config
import TypingTrainer.Practice
import TypingTrainer.Snippet.Embedded

namespace TypingTrainer

inductive AppAction
  | quit
  | cyclePreset
  | cycleLanguage
  | session
  deriving DecidableEq

def Key.appAction (k : Key) : AppAction :=
  if k.kind ≠ .press ∨ ¬ k.modifiers.control then .session
  else
    match k.code with
    | .char 'c' => .quit
    | .char 'p' => .cyclePreset
    | .char 'l' => .cycleLanguage
    | _ => .session

inductive Input
  | key (k : Key)
  | resize
  | tick
  deriving DecidableEq

def Input.next : List Input → Input × List Input
  | [] => (.tick, [])
  | i :: rest => (i, rest)

/-- Where the configuration is kept. A store that cannot be written keeps what it has. -/
structure Store where
  config : Config
  writable : Bool
  deriving DecidableEq

def Store.save (s : Store) (c : Config) : Store :=
  if s.writable then { s with config := c } else s

structure App where
  practice : Practice
  config : Config
  store : Store

namespace App

structure Reply where
  app : App
  running : Bool
  saved : List Config := []
  calls : List Call := []

def save (a : App) : App := { a with store := a.store.save a.config }

def cyclePreset (a : App) (now : Instant) : Reply :=
  let next := a.practice.preset.next
  let r := a.practice.setPreset next now
  let config := { a.config with preset := next }
  { app := { a with practice := r.practice, config := config }.save
    running := true
    saved := [config]
    calls := r.calls }

def switchLanguage (a : App) (l : Language) : Reply :=
  let practice := a.practice.replaceSnippet (.embedded l) (.embedded l)
  let config := { a.config with language := l }
  { app := { a with practice := practice, config := config }.save
    running := true
    saved := [config] }

def handleKey (a : App) (k : Key) (now : Instant) : Reply :=
  match k.appAction with
  | .quit => { app := a, running := false }
  | .cyclePreset => a.cyclePreset now
  | .cycleLanguage => a.switchLanguage a.practice.source.language.next
  | .session =>
    let r := a.practice.handleKey k now
    { app := { a with practice := r.practice }, running := true, calls := r.calls }

def poll (a : App) (now : Instant) : Practice.Reply Bool × App :=
  let r := a.practice.poll now
  (r, { a with practice := r.practice })

structure Frame where
  practice : Practice
  now : Instant

structure Loop where
  frames : List Frame := []
  saved : List Config := []

/-- Handles inputs, each at its time, until one of them quits. A tick is drawn only when a line
advanced or the clock runs. -/
def loop (a : App) : List (Input × Instant) → Loop
  | [] => {}
  | (.tick, now) :: rest =>
    let (r, next) := a.poll now
    let more := next.loop rest
    if r.answer || next.practice.phase == .running then
      { more with frames := ⟨next.practice, now⟩ :: more.frames }
    else more
  | (.resize, now) :: rest =>
    let more := a.loop rest
    { more with frames := ⟨a.practice, now⟩ :: more.frames }
  | (.key k, now) :: rest =>
    let r := a.handleKey k now
    if r.running then
      let more := r.app.loop rest
      { frames := ⟨r.app.practice, now⟩ :: more.frames, saved := r.saved ++ more.saved }
    else {}

def start (a : App) (now : Instant) (inputs : List (Input × Instant)) : Loop :=
  let more := a.loop inputs
  { more with frames := ⟨a.practice, now⟩ :: more.frames }

end App

end TypingTrainer
