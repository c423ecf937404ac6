import TypingTrainer.Filter
import TypingTrainer.Session
import TypingTrainer.Snippet.Info

namespace TypingTrainer

structure Completion where
  generation : Nat
  due : Instant
  deriving DecidableEq

structure Result where
  wpm : Nat
  accuracy : Nat
  elapsed : Clock.Reading
  deriving DecidableEq

def Result.time (r : Result) : String := Clock.format r.elapsed.seconds

structure Record where
  id : String
  wpm : Nat
  accuracy : Nat
  deriving DecidableEq

structure Recorder where
  accepts : Record → Bool

structure Call where
  record : Record
  accepted : Bool
  deriving DecidableEq

structure LiveStats where
  language : Language
  presetTitle : String
  line : Nat
  totalLines : Nat
  progress : String
  wpm : Nat
  accuracy : Nat
  deriving DecidableEq

/-- The practice of one snippet under a typing mode. Every reset and every switch of the mode
begins a new generation; a completion counts only in the generation that scheduled it. -/
structure Practice where
  source : Snippet
  info : SnippetInfo
  preset : Preset
  lines : List Line
  session : Session
  generation : Nat
  pending : Option Completion
  settleDelay : Duration
  recorder : Option Recorder
  result : Option Result

namespace Practice

/-- How long the last character of a line stays before the line advances: 50 ms. -/
def defaultSettleDelay : Duration := 50000000

structure Reply (α : Type) where
  practice : Practice
  answer : α
  events : List Event := []
  calls : List Call := []

def phase (p : Practice) : Phase := p.session.phase

def current? (p : Practice) : Option Line := p.session.current? p.lines

def reset (p : Practice) : Practice :=
  { p with
    session := ({} : Session).skipToTypeable p.lines
    generation := p.generation + 1
    pending := none
    result := none }

def begin (source : Snippet) (info : SnippetInfo) (preset : Preset) (settleDelay : Duration)
    (recorder : Option Recorder) : Practice :=
  reset {
    source := source
    info := info
    preset := preset
    lines := (source.filter preset).lines
    session := {}
    generation := 0
    pending := none
    settleDelay := settleDelay
    recorder := recorder
    result := none }

def callsFor (p : Practice) (r : Result) : List Call :=
  match p.recorder, p.info.id with
  | some recorder, some id =>
    let record : Record := ⟨id, r.wpm, r.accuracy⟩
    [⟨record, recorder.accepts record⟩]
  | _, _ => []

/-- Ends the test at `now`: an open pause is closed, the clock read, the result kept and recorded.
A refusal of the recorder changes nothing. -/
def finish (p : Practice) (now : Instant) : Reply Unit :=
  let session := p.session.closePause now
  let elapsed := session.reading now
  let result : Result := {
    wpm := Clock.wpm session.stored.typed elapsed.seconds
    accuracy := Clock.accuracy session.stored.typed session.stored.errors
    elapsed := elapsed }
  { practice := { p with session := { session with active := false }, result := some result }
    answer := ()
    calls := p.callsFor result }

def advance (p : Practice) (now : Instant) : Reply Unit :=
  let r := p.session.advanceLine p.lines now
  let moved := { p with session := r.session }
  match r.answer with
  | .nextLine => { practice := moved, answer := (), events := r.events }
  | .testFinished =>
    let f := moved.finish now
    { f with events := r.events ++ f.events }

def handleKey (p : Practice) (k : Key) (now : Instant) : Reply Outcome :=
  let r := p.session.handleKey p.lines k now
  let typed := { p with session := r.session }
  let after := match r.answer with
    | .lineFinished =>
      { typed with pending := some ⟨p.generation, now + (p.settleDelay : Int)⟩ }
    | .resetRequested => typed.reset
    | .handled | .ignored => typed
  { practice := after, answer := r.answer, events := r.events }

def lineDone (p : Practice) : Bool := p.current?.any fun l => l.typingLen ≤ p.session.char

def completeLine (p : Practice) (generation : Nat) (now : Instant) : Reply Bool :=
  if generation ≠ p.generation then { practice := p, answer := false }
  else
    let settled := { p with pending := none }
    if p.phase = .running ∧ p.lineDone then
      let r := settled.advance now
      { r with answer := true }
    else { practice := settled, answer := false }

/-- Runs the pending completion once it is due. Nothing advances during a pause. -/
def poll (p : Practice) (now : Instant) : Reply Bool :=
  match p.pending with
  | some c =>
    if c.due ≤ now ∧ ¬ p.session.paused then p.completeLine c.generation now
    else { practice := p, answer := false }
  | none => { practice := p, answer := false }

def togglePause (p : Practice) (now : Instant) : Reply Unit :=
  let r := p.session.togglePause now
  { practice := { p with session := r.session }, answer := (), events := r.events }

/-- Switches the typing mode. The current line starts again; left with nothing to type, it is
completed at once. -/
def setPreset (p : Practice) (preset : Preset) (now : Instant) : Reply Unit :=
  let switched := { p with
    preset := preset
    lines := (p.source.filter preset).lines
    generation := p.generation + 1
    pending := none
    session := { p.session with char := 0, missed := false } }
  match switched.phase with
  | .idle =>
    { practice := { switched with
        session := { switched.session with line := 0 }.skipToTypeable switched.lines }
      answer := () }
  | .running | .paused =>
    if switched.current?.any Line.isTypeable then { practice := switched, answer := () }
    else switched.advance now
  | .complete => { practice := switched, answer := () }

def replaceSnippet (p : Practice) (source : Snippet) (info : SnippetInfo) : Practice :=
  { p with
    source := source
    info := info
    lines := (source.filter p.preset).lines }.reset

inductive Action
  | key (k : Key) (now : Instant)
  | poll (now : Instant)
  | completeLine (generation : Nat) (now : Instant)
  | togglePause (now : Instant)
  | reset
  | setPreset (preset : Preset) (now : Instant)
  | replaceSnippet (source : Snippet) (info : SnippetInfo)

inductive Answer
  | outcome (o : Outcome)
  | advanced (b : Bool)
  | done
  deriving DecidableEq

def Reply.map {α β : Type} (f : α → β) (r : Reply α) : Reply β :=
  ⟨r.practice, f r.answer, r.events, r.calls⟩

def step (p : Practice) : Action → Reply Answer
  | .key k now => (p.handleKey k now).map .outcome
  | .poll now => (p.poll now).map .advanced
  | .completeLine generation now => (p.completeLine generation now).map .advanced
  | .togglePause now => (p.togglePause now).map fun _ => .done
  | .reset => { practice := p.reset, answer := .done }
  | .setPreset preset now => (p.setPreset preset now).map fun _ => .done
  | .replaceSnippet source info => { practice := p.replaceSnippet source info, answer := .done }

def run (p : Practice) : List Action → Reply (List Answer)
  | [] => { practice := p, answer := [] }
  | a :: rest =>
    let first := p.step a
    let more := first.practice.run rest
    { practice := more.practice
      answer := first.answer :: more.answer
      events := first.events ++ more.events
      calls := first.calls ++ more.calls }

/-- Types characters one after the other, each so much later than the one before. -/
def typeText (p : Practice) (text : List Char) (now : Instant) (gap : Int) : Reply (List Outcome) :=
  match text with
  | [] => { practice := p, answer := [] }
  | c :: rest =>
    let first := p.handleKey (Key.plain c) now
    let more := typeText first.practice rest (now + gap) gap
    { practice := more.practice
      answer := first.answer :: more.answer
      events := first.events ++ more.events
      calls := first.calls ++ more.calls }

def elapsed (p : Practice) (now : Instant) : Clock.Reading := p.session.reading now

def liveStats (p : Practice) (now : Instant) : LiveStats where
  language := p.source.language
  presetTitle := p.preset.rules.title
  line := p.session.line + 1
  totalLines := p.source.totalLines
  progress := match p.current? with
    | some l => toString p.session.char ++ "/" ++ toString l.typingLen
    | none => "0/0"
  wpm :=
    if p.phase = .running then Clock.wpm p.session.stored.typed (p.elapsed now).seconds else 0
  accuracy := Clock.accuracy p.session.stored.typed p.session.stored.errors

end Practice

end TypingTrainer
