import TypingTrainer.SortedMap

namespace TypingTrainer

open Std

/-- What kind of token the tokenizer saw. A tag that no preset knows is kept as it is. -/
inductive Category
  | parenthesis
  | curlyBrace
  | squareBracket
  | angleBracket
  | operator
  | punctuation
  | stringContent
  | stringDelimiter
  | comment
  | keyword
  | identifier
  | other (tag : String)
  deriving DecidableEq

namespace Category

def tag : Category → String
  | parenthesis => "parenthesis"
  | curlyBrace => "curly_brace"
  | squareBracket => "square_bracket"
  | angleBracket => "angle_bracket"
  | operator => "operator"
  | punctuation => "punctuation"
  | stringContent => "string_content"
  | stringDelimiter => "string_delimiter"
  | comment => "comment"
  | keyword => "keyword"
  | identifier => "identifier"
  | other t => t

def known : List Category :=
  [parenthesis, curlyBrace, squareBracket, angleBracket, operator, punctuation, stringContent,
    stringDelimiter, comment, keyword, identifier]

def ofTag (t : String) : Category := (known.find? fun c => c.tag == t).getD (other t)

def isKnown : Category → Bool
  | other _ => false
  | _ => true

def rank : Category → Nat
  | parenthesis => 0
  | curlyBrace => 1
  | squareBracket => 2
  | angleBracket => 3
  | operator => 4
  | punctuation => 5
  | stringContent => 6
  | stringDelimiter => 7
  | comment => 8
  | keyword => 9
  | identifier => 10
  | other _ => 11

instance : Ord Category := ⟨compareLex (compareOn rank) (compareOn tag)⟩

theorem tag_ofTag (t : String) : (ofTag t).tag = t := by
  unfold ofTag
  cases h : known.find? fun c => c.tag == t with
  | none => rfl
  | some c => simpa using List.find?_some h

theorem eq_of_rank_of_tag {a b : Category} (hr : a.rank = b.rank) (ht : a.tag = b.tag) : a = b := by
  cases a <;> cases b <;> simp_all [rank, tag]

instance : TransOrd Category :=
  inferInstanceAs (TransCmp (compareLex (compareOn rank) (compareOn tag)))

instance : LawfulEqOrd Category where
  eq_of_compare {a b} h := by
    obtain ⟨hr, ht⟩ := compareLex_eq_eq.1 h
    exact eq_of_rank_of_tag (LawfulEqOrd.eq_of_compare hr) (LawfulEqOrd.eq_of_compare ht)

end Category

end TypingTrainer
