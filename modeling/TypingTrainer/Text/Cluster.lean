import TypingTrainer.Text.Cluster.Table
import TypingTrainer.Text.Emoji

namespace TypingTrainer.Text

def isClusterControl (c : Char) : Bool :=
  c == '\r' || c == '\n' || inRanges c.toNat clusterControlRanges

def isExtender (c : Char) : Bool := inRanges c.toNat extendRanges || isEmojiModifier c

def isHangulL (c : Char) : Bool :=
  inRanges c.toNat [(0x1100, 0x115F), (0xA960, 0xA97C)]

def isHangulV (c : Char) : Bool :=
  inRanges c.toNat [(0x1160, 0x11A7), (0xD7B0, 0xD7C6), (0x16D63, 0x16D63), (0x16D67, 0x16D6A)]

def isHangulT (c : Char) : Bool :=
  inRanges c.toNat [(0x11A8, 0x11FF), (0xD7CB, 0xD7FB)]

def isHangulSyllable (c : Char) : Bool := inRanges c.toNat [(0xAC00, 0xD7A3)]

def isHangulLV (c : Char) : Bool := isHangulSyllable c && (c.toNat - 0xAC00) % 28 == 0

def hangulJoins (a b : Char) : Bool :=
  (isHangulL a && (isHangulL b || isHangulV b || isHangulSyllable b)) ||
    ((isHangulV a || isHangulLV a) && (isHangulV b || isHangulT b)) ||
    ((isHangulT a || isHangulSyllable a) && isHangulT b)

def joiner : Char := '\u200D'

def nonJoiner : Char := '\u200C'

def isConjunct (c : Char) : Bool := inRanges c.toNat conjunctRanges

def isLinker (c : Char) : Bool := inRanges c.toNat linkerRanges

def linksConjunct (before : List Char) : Bool :=
  let marks := before.takeWhile fun c => (isExtender c || c == joiner) && c != nonJoiner
  marks.any isLinker && (before.drop marks.length).head?.any isConjunct

def joinsCluster (before : List Char) (c : Char) : Bool :=
  match before with
  | [] => true
  | a :: earlier =>
    if a == '\r' && c == '\n' then true
    else if isClusterControl a || isClusterControl c then false
    else
      isExtender c || c == joiner || inRanges c.toNat spacingMarkRanges ||
        inRanges a.toNat prependRanges || hangulJoins a c ||
        (isConjunct c && linksConjunct before) ||
        (a == joiner && isPictograph c &&
          ((earlier.dropWhile isExtender).head?.any isPictograph)) ||
        (isRegionalIndicator a && isRegionalIndicator c &&
          (before.takeWhile isRegionalIndicator).length % 2 == 1)

def clustersFrom (before : List Char) : List Char → List (List Char)
  | [] => if before.isEmpty then [] else [before.reverse]
  | c :: rest =>
    if joinsCluster before c then clustersFrom (c :: before) rest
    else before.reverse :: clustersFrom [c] rest

/-- The user-perceived characters of a text: its extended grapheme clusters. -/
def clusters (cs : List Char) : List (List Char) := clustersFrom [] cs

end TypingTrainer.Text
