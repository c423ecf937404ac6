import TypingTrainer.Clock
import TypingTrainer.Key
import TypingTrainer.Snippet

namespace TypingTrainer

inductive Phase
  | idle
  | running
  | paused
  | complete
  deriving DecidableEq

inductive Event
  | testStarted
  | charTyped (correct : Bool)
  | lineCompleted
  | testCompleted
  | pauseToggled (paused : Bool)
  | resetRequested
  deriving DecidableEq

/-- Progress of one typing session. The characters typed right and the errors are counted in full
here; what there is of the two counts outside is `Session.stored`. -/
structure Session where
  active : Bool := false
  paused : Bool := false
  startedAt : Option Instant := none
  endedAt : Option Instant := none
  pausedAt : Option Instant := none
  pausedTotal : Duration := 0
  line : Nat := 0
  char : Nat := 0
  typed : Nat := 0
  errors : Nat := 0
  completed : SortedSet Nat := ∅
  missed : Bool := false
  deriving DecidableEq, Inhabited

inductive KeyAction
  | togglePause
  | reset
  | type (c : Char)
  | ignore
  deriving DecidableEq

inductive Outcome
  | ignored
  | handled
  | lineFinished
  | resetRequested
  deriving DecidableEq

inductive Advance
  | nextLine
  | testFinished
  deriving DecidableEq

namespace Session

/-- The session as it is kept, with its counts in words of 64 bits: after the last number that these
can hold comes 0. Nothing that a session does depends on its counts. -/
def stored (s : Session) : Session :=
  { s with typed := s.typed % UInt64.size, errors := s.errors % UInt64.size }

def phase (s : Session) : Phase :=
  if s.endedAt.isSome then .complete
  else if !s.active then .idle
  else if s.paused then .paused
  else .running

def current? (s : Session) (lines : List Line) : Option Line := lines[s.line]?

/-- The clock at `now`. It stands at zero unless the session is active and was started. -/
def reading (s : Session) (now : Instant) : Clock.Reading :=
  match s.active, s.startedAt with
  | true, some start =>
    { sinceStart := Clock.between start now
      paused := s.pausedTotal
      openPause := if s.paused then (s.pausedAt.map (Clock.between · now)).getD 0 else 0 }
  | _, _ => .zero

structure Reply (α : Type) where
  session : Session
  answer : α
  events : List Event
  deriving DecidableEq

def start (s : Session) (now : Instant) : Session :=
  { s with active := true, startedAt := some now }

def closePause (s : Session) (now : Instant) : Session :=
  { s with
    paused := false
    pausedAt := none
    pausedTotal := s.pausedTotal + (s.pausedAt.map (Clock.between · now)).getD 0 }

def togglePause (s : Session) (now : Instant) : Reply Unit :=
  match s.phase with
  | .running => ⟨{ s with paused := true, pausedAt := some now }, (), [.pauseToggled true]⟩
  | .paused => ⟨s.closePause now, (), [.pauseToggled false]⟩
  | .idle | .complete => ⟨s, (), []⟩

def typeChar (s : Session) (lines : List Line) (c : Char) : Reply Outcome :=
  match s.current? lines with
  | none => ⟨s, .ignored, []⟩
  | some line =>
    match line.expected? s.char with
    | none => ⟨s, .ignored, []⟩
    | some expected =>
      if c = expected then
        ⟨{ s with char := s.char + 1, typed := s.typed + 1, missed := false },
          if s.char + 1 = line.typingLen then .lineFinished else .handled, [.charTyped true]⟩
      else
        ⟨{ s with errors := s.errors + 1, missed := true }, .handled, [.charTyped false]⟩

/-- The index after `i`. Indices are words of 64 bits, and after the last of them comes 0. No list
is so long that its lines or its end have that index. -/
def nextIndex (lines : List Line) (i : Nat) : Nat :=
  if i ≤ lines.length ∨ i + 1 < UInt64.size then i + 1 else 0

def skip (lines : List Line) (s : Session) : Session :=
  { s with line := nextIndex lines s.line }

def pass (lines : List Line) (s : Session) : Session :=
  { s.skip lines with completed := s.completed.insert s.line }

/-- Takes the step from each line with nothing to type, up to the first that has something. The
lines are those from the cursor on. -/
def whileEmpty (step : Session → Session) : List Line → Session → Session
  | [], s => s
  | l :: rest, s => if l.isTypeable then s else whileEmpty step rest (step s)

def arrive (s : Session) (lines : List Line) (now : Instant) : Reply Advance :=
  if s.line < lines.length then ⟨s, .nextLine, [.lineCompleted]⟩
  else ⟨{ s with endedAt := some now }, .testFinished, [.testCompleted]⟩

def advanceLine (s : Session) (lines : List Line) (now : Instant) : Reply Advance :=
  let left := { s.pass lines with char := 0, missed := false }
  (left.whileEmpty (pass lines) (lines.drop left.line)).arrive lines now

def skipToTypeable (s : Session) (lines : List Line) : Session :=
  s.whileEmpty (skip lines) (lines.drop s.line)

end Session

/-- A paused session is reset by its key whatever modifiers are held. Apart from that a key with a
command modifier means nothing. -/
def Key.classify (k : Key) (phase : Phase) : KeyAction :=
  if k.kind ≠ .press then .ignore
  else if phase = .paused ∧ k.code = resetCode then .reset
  else if k.modifiers.command then .ignore
  else if k.code = resetCode then .reset
  else if k.code = pauseCode then
    match phase with
    | .running | .paused => .togglePause
    | .idle | .complete => .ignore
  else
    match phase with
    | .idle | .running =>
      match k.code with
      | .char c => if Text.isControl c then .ignore else .type c
      | .enter => .type '\n'
      | _ => .ignore
    | .paused | .complete => .ignore

namespace Session

/-- One key. A reset is only asked for: it is the owner of the session who performs it. -/
def handleKey (s : Session) (lines : List Line) (k : Key) (now : Instant) : Reply Outcome :=
  match k.classify s.phase with
  | .ignore => ⟨s, .ignored, []⟩
  | .reset => ⟨s, .resetRequested, [.resetRequested]⟩
  | .togglePause =>
    let r := s.togglePause now
    ⟨r.session, .handled, r.events⟩
  | .type c =>
    if s.phase = .idle then
      let r := (s.start now).typeChar lines c
      ⟨r.session, r.answer, .testStarted :: r.events⟩
    else s.typeChar lines c

end Session

end TypingTrainer
