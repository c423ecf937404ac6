import TypingTrainer.Text.Cluster.Table
import TypingTrainer.Text.Control
import TypingTrainer.Text.Unprintable

namespace TypingTrainer

inductive MediaKey
  | play
  | pause
  | playPause
  | reverse
  | stop
  | fastForward
  | rewind
  | nextTrack
  | previousTrack
  | record
  | lowerVolume
  | raiseVolume
  | mute
  deriving DecidableEq

inductive ModifierKey
  | leftShift
  | leftControl
  | leftAlt
  | leftSuper
  | leftHyper
  | leftMeta
  | rightShift
  | rightControl
  | rightAlt
  | rightSuper
  | rightHyper
  | rightMeta
  | isoLevel3Shift
  | isoLevel5Shift
  deriving DecidableEq

inductive KeyCode
  | char (c : Char)
  | enter
  | tab
  | backTab
  | esc
  | backspace
  | delete
  | insert
  | left
  | right
  | up
  | down
  | home
  | endKey
  | pageUp
  | pageDown
  | capsLock
  | scrollLock
  | numLock
  | printScreen
  | pause
  | menu
  | keypadBegin
  | null
  | function (n : UInt8)
  | media (k : MediaKey)
  | modifier (k : ModifierKey)
  deriving DecidableEq

namespace KeyCode

def named : List (KeyCode × String) :=
  [(enter, "Enter"), (tab, "Tab"), (backTab, "BackTab"), (esc, "Esc"), (backspace, "Backspace"),
    (delete, "Delete"), (insert, "Insert"), (left, "Left"), (right, "Right"), (up, "Up"),
    (down, "Down"), (home, "Home"), (endKey, "End"), (pageUp, "PageUp"), (pageDown, "PageDown"),
    (capsLock, "CapsLock"), (scrollLock, "ScrollLock"), (numLock, "NumLock"),
    (printScreen, "PrintScreen"), (pause, "Pause"), (menu, "Menu"), (keypadBegin, "KeypadBegin"),
    (null, "Null")] ++
  [(.play, "Play"), (.pause, "Pause"), (.playPause, "PlayPause"), (.reverse, "Reverse"),
    (.stop, "Stop"), (.fastForward, "FastForward"), (.rewind, "Rewind"),
    (.nextTrack, "TrackNext"), (.previousTrack, "TrackPrevious"), (.record, "Record"),
    (.lowerVolume, "LowerVolume"), (.raiseVolume, "RaiseVolume"), (.mute, "MuteVolume")].map
      (fun (k, name) => (media k, "Media(" ++ name ++ ")")) ++
  [(.leftShift, "LeftShift"), (.leftControl, "LeftControl"), (.leftAlt, "LeftAlt"),
    (.leftSuper, "LeftSuper"), (.leftHyper, "LeftHyper"), (.leftMeta, "LeftMeta"),
    (.rightShift, "RightShift"), (.rightControl, "RightControl"), (.rightAlt, "RightAlt"),
    (.rightSuper, "RightSuper"), (.rightHyper, "RightHyper"), (.rightMeta, "RightMeta"),
    (.isoLevel3Shift, "IsoLevel3Shift"), (.isoLevel5Shift, "IsoLevel5Shift")].map
      (fun (k, name) => (modifier k, "Modifier(" ++ name ++ ")"))

def quoteChar (c : Char) : String :=
  let body := match c with
    | '\x00' => "\\0"
    | '\t' => "\\t"
    | '\n' => "\\n"
    | '\r' => "\\r"
    | '\'' => "\\'"
    | '\\' => "\\\\"
    | c => if Text.isUnprintable c || Text.inRanges c.toNat Text.extendRanges then
        "\\u\x7b" ++ String.ofList (Nat.toDigits 16 c.toNat) ++ "\x7d"
      else c.toString
  "'" ++ body ++ "'"

def describe : KeyCode → String
  | char c => "Char(" ++ quoteChar c ++ ")"
  | function n => "F(" ++ toString n ++ ")"
  | code => ((named.find? fun e => e.1 == code).map Prod.snd).getD ""

def label : KeyCode → String
  | char c => c.toString
  | code => code.describe.toLower

end KeyCode

structure Modifiers where
  shift : Bool := false
  control : Bool := false
  alt : Bool := false
  superKey : Bool := false
  hyper : Bool := false
  metaKey : Bool := false
  deriving DecidableEq, Inhabited

namespace Modifiers

def bits (m : Modifiers) : Nat :=
  m.shift.toNat + 2 * m.control.toNat + 4 * m.alt.toNat + 8 * m.superKey.toNat +
    16 * m.hyper.toNat + 32 * m.metaKey.toNat

/-- A modifier that turns a key into a command of the terminal or the desktop. -/
def command (m : Modifiers) : Bool := m.control || m.alt || m.superKey || m.metaKey

end Modifiers

inductive KeyKind
  | press
  | repeated
  | release
  deriving DecidableEq, Inhabited

structure Key where
  code : KeyCode
  modifiers : Modifiers := {}
  kind : KeyKind := .press
  deriving DecidableEq

namespace Key

def pauseCode : KeyCode := .tab

def resetCode : KeyCode := .esc

def plain (c : Char) : Key := { code := if c = '\n' then .enter else .char c }

end Key

end TypingTrainer
