import TypingTrainer.Text.Emoji
import TypingTrainer.Text.Width.Table

namespace TypingTrainer.Text

def zeroWidthJoiner : Char := '\u200D'

def textSelector : Char := '\uFE0E'

def emojiSelector : Char := '\uFE0F'

def keycap : Char := '\u20E3'

def blackFlag : Char := Char.ofNat 0x1F3F4

def charWidth (c : Char) : Nat :=
  if c == '\u17D8' then 3
  else if inRanges c.toNat zeroWidthRanges then 0
  else if inRanges c.toNat wideRanges then 2
  else 1

/-- A letter, or the start of a joined group, that may be drawn as one with a letter before it. A
flag tells whether a joiner stands in front. -/
inductive Ligature
  | alef
  | lamed (joined : Bool)
  | ya (joined : Bool)
  | vowelYa
  | tifinagh (joined : Bool)
  | joinerTifinagh
  | lisuTone
  | orkhonI (joined : Bool)
  | subjoined
  deriving DecidableEq

inductive Context
  | plain
  | lineFeed
  | emoji
  | modifier
  | indicators (n : Nat)
  | joined
  | joinedKeycap
  | joinedIndicators (n : Nat)
  | tags (letters digits : Nat)
  | ligature (l : Ligature)
  deriving DecidableEq

inductive Selector
  | text
  | emoji
  deriving DecidableEq

/-- The selector right behind a character, and the context behind the selector. -/
structure Following where
  selector : Option Selector := none
  context : Context := .plain
  deriving DecidableEq

namespace Ligature

def isAlef (c : Char) : Bool :=
  inRanges c.toNat [(0x622, 0x623), (0x625, 0x625), (0x627, 0x627), (0x671, 0x673), (0x675, 0x675),
    (0x773, 0x774), (0x870, 0x882)]

def isLam (c : Char) : Bool :=
  inRanges c.toNat [(0x644, 0x644), (0x6B5, 0x6B8), (0x76A, 0x76A), (0x8A6, 0x8A6), (0x8C7, 0x8C7)]

def isTifinagh (c : Char) : Bool := inRanges c.toNat [(0x2D31, 0x2D65), (0x2D6F, 0x2D6F)]

def isSubjoinable (c : Char) : Bool :=
  inRanges c.toNat [(0x1780, 0x1782), (0x1784, 0x1787), (0x1789, 0x178C), (0x178E, 0x1793),
    (0x1795, 0x1798), (0x179B, 0x179D), (0x17A0, 0x17A0), (0x17A2, 0x17A2), (0x17A7, 0x17A7),
    (0x17AB, 0x17AC), (0x17AF, 0x17AF)]

def of? (c : Char) : Option Ligature :=
  if isAlef c then some alef
  else if c == '\u05DC' then some (lamed false)
  else if c == '\u1A10' then some (ya false)
  else if isTifinagh c then some (tifinagh false)
  else if c == '\uA4FC' || c == '\uA4FD' then some lisuTone
  else if c == Char.ofNat 0x10C03 then some (orkhonI false)
  else if isSubjoinable c then some subjoined
  else none

def isIgnorableMark (c : Char) : Bool :=
  inRanges c.toNat [(0x34F, 0x34F), (0x17B4, 0x17B5), (0x180B, 0x180D), (0x180F, 0x180F),
    (0xFE00, 0xFE0F), (0xE0100, 0xE01EF)]

def isTransparentMark (c : Char) : Bool := charWidth c == 0 && !inRanges c.toNat opaqueRanges

def join : Ligature → Ligature
  | lamed _ => lamed true
  | ya _ => ya true
  | tifinagh _ => tifinagh true
  | orkhonI _ => orkhonI true
  | l => l

def extend? (l : Ligature) (c : Char) : Option (Int × Context) :=
  if l ≠ alef ∧ c = zeroWidthJoiner then some (0, .ligature l.join)
  else if l ≠ alef ∧ isIgnorableMark c then some (0, .ligature l)
  else
    match l with
    | alef =>
      if isLam c then some (0, .plain)
      else if isTransparentMark c then some (0, .ligature alef)
      else none
    | lamed true => if c == '\u05D0' then some (0, .plain) else none
    | ya true => if c == '\u1A17' then some (0, .ligature vowelYa) else none
    | vowelYa => if c == '\u1A15' then some (0, .plain) else none
    | tifinagh joined =>
      if c == '\u2D7F' then some (1, .ligature joinerTifinagh)
      else if joined && isTifinagh c then some (0, .plain)
      else none
    | joinerTifinagh => if isTifinagh c then some (-1, .plain) else none
    | lisuTone => if '\uA4F8' ≤ c ∧ c ≤ '\uA4FB' then some (0, .plain) else none
    | orkhonI true => if c == Char.ofNat 0x10C32 then some (0, .plain) else none
    | subjoined => if c == '\u17D2' then some (-1, .plain) else none
    | lamed false | ya false | orkhonI false => none

end Ligature

namespace Context

def of (c : Char) : Context :=
  if isEmojiModifier c then modifier
  else if isRegionalIndicator c then indicators 1
  else if isEmojiPresentation c then emoji
  else
    match Ligature.of? c with
    | some l => ligature l
    | none => plain

def isTagLetter (c : Char) : Bool := inRanges c.toNat [(0xE0061, 0xE007A)]

def isTagDigit (c : Char) : Bool := inRanges c.toNat [(0xE0030, 0xE0039)]

def tagEnd : Char := Char.ofNat 0xE007F

def joins : Context → Bool
  | emoji | modifier => true
  | indicators n | joinedIndicators n => 2 ≤ n
  | _ => false

def extend? (k : Context) (c : Char) : Option (Int × Context) :=
  if k.joins ∧ c = zeroWidthJoiner then some (0, joined)
  else
    match k with
    | ligature l => l.extend? c
    | modifier => if isModifierBase c then some (0, emoji) else none
    | indicators n => if isRegionalIndicator c then some (1, indicators (n + 1)) else none
    | joined =>
      if c == keycap then some (0, joinedKeycap)
      else if isRegionalIndicator c then some (1, joinedIndicators 1)
      else if isEmojiModifier c then some (0, modifier)
      else if c == tagEnd then some (0, tags 0 0)
      else if of c = emoji then some (0, emoji)
      else none
    | joinedIndicators n =>
      if isRegionalIndicator c then some (if n % 2 = 1 then -1 else 3, joinedIndicators (n + 1))
      else none
    | tags letters digits =>
      if isTagLetter c ∧ letters < 6 ∧ digits = 0 then some (0, tags (letters + 1) 0)
      else if isTagDigit c ∧ (if digits = 0 then letters < 5 else digits < 3) then
        some (0, tags letters (digits + 1))
      else if c = blackFlag ∧ (if digits = 0 then 3 ≤ letters else digits = 3) then some (0, emoji)
      else none
    | plain | lineFeed | emoji | joinedKeycap => none

def isLigature : Context → Bool
  | ligature _ => true
  | _ => false

def isJoined : Context → Bool
  | joined | joinedKeycap => true
  | _ => false

end Context

def Following.release (f : Following) : Following :=
  if f.selector = some .emoji then { context := if f.context.isLigature then f.context else .plain }
  else f

/-- The columns that a character adds in front of what follows it, and what follows the character
before. A control character takes one column, a line break in two characters as well. -/
def measure (c : Char) (f : Following) : Int × Following :=
  if f.selector = some .emoji ∧ isSelectable c then
    (if f.context.isJoined then 0 else 2, { context := .emoji })
  else
    let f := f.release
    if c = '\n' then (1, { context := .lineFeed })
    else if c ≤ '\u00A0' then (if c = '\r' ∧ f = { context := .lineFeed } then 0 else 1, {})
    else if c = emojiSelector then
      (0, ⟨some .emoji, if f.context.isLigature || f.context.isJoined then f.context else .plain⟩)
    else if c = textSelector then
      (0, ⟨some .text, if f.context.isLigature then f.context else .plain⟩)
    else if f.selector = some .text ∧ isSelectable c ∧ isEmojiPresentation c ∧
        ¬ inRanges c.toNat [(0x1F200, 0x1F2FF)] then (1, {})
    else
      match f.context.extend? c with
      | some (columns, context) => (columns, { context := context })
      | none => (charWidth c, { context := .of c })

def width (cs : List Char) : Nat :=
  (cs.foldr (fun c (r : Int × Following) =>
    let (columns, f) := measure c r.2
    (columns + r.1, f)) (0, {})).1.toNat

end TypingTrainer.Text
