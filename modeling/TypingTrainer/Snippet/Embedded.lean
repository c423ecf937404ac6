import TypingTrainer.Snippet

namespace TypingTrainer

namespace Embedded

structure Piece where
  text : String
  kind : String
  categories : List Category

def gap (n : Nat) : Piece := ⟨String.ofList (List.replicate n ' '), "whitespace", []⟩

def keyword (text : String) : Piece := ⟨text, text, [.keyword]⟩

def name (text : String) : Piece := ⟨text, "identifier", [.identifier]⟩

def number (text : String) : Piece := ⟨text, "number", []⟩

def comment (text : String) : Piece := ⟨text, "comment", [.comment]⟩

def operator (text : String) : Piece := ⟨text, text, [.operator]⟩

def mark (text : String) : Piece := ⟨text, text, [.punctuation]⟩

def quote : Piece := ⟨"\"", "string_start", [.stringDelimiter]⟩

def quoted (text : String) : Piece := ⟨text, "string_content", [.stringContent]⟩

def bracket (text : String) : Piece :=
  let category : Category :=
    if text == "(" || text == ")" then .parenthesis
    else if text == "[" || text == "]" then .squareBracket
    else if text == "\x7b" || text == "\x7d" then .curlyBrace
    else .angleBracket
  ⟨text, text, [category, .punctuation]⟩

def place (column : Nat) : List Piece → List Token
  | [] => []
  | p :: rest =>
    let t := Token.ofText p.text p.kind p.categories column
    { t with typeable := t.baseTypeable } :: place t.endCol rest

def snippet (language : Language) (lines : List (Nat × List Piece)) : Snippet where
  language := language
  totalLines := lines.length
  lines := lines.zipIdx.map fun ((indent, pieces), i) => {
    number := i
    indent := indent
    tokens := place 0 pieces
    sequence := ""
    charMap := ∅ }

def python : Snippet := snippet .python [
  (0, [comment "# sum the even squares"]),
  (0, [keyword "def", gap 1, name "even_squares", bracket "(", name "values", bracket ")",
    mark ":"]),
  (1, [gap 4, name "total", gap 1, operator "=", gap 1, number "0"]),
  (1, [gap 4, keyword "for", gap 1, name "v", gap 1, keyword "in", gap 1, name "values", mark ":"]),
  (2, [gap 8, keyword "if", gap 1, name "v", gap 1, operator "%", gap 1, number "2", gap 1,
    operator "==", gap 1, number "0", mark ":"]),
  (3, [gap 12, name "total", gap 1, operator "+=", gap 1, name "v", gap 1, operator "*", gap 1,
    name "v"]),
  (0, []),
  (1, [gap 4, keyword "return", gap 1, name "total"])]

def javascript : Snippet := snippet .javascript [
  (0, [keyword "const", gap 1, name "names", gap 1, operator "=", gap 1, name "users", mark ".",
    name "map", bracket "(", name "u", gap 1, operator "=>", gap 1, name "u", mark ".",
    name "name", bracket ")", mark ";"]),
  (0, [keyword "const", gap 1, name "label", gap 1, operator "=", gap 1, quote, quoted "hello",
    quote, mark ";"]),
  (0, []),
  (0, [keyword "function", gap 1, name "greet", bracket "(", name "name", bracket ")", gap 1,
    bracket "\x7b"]),
  (1, [gap 4, keyword "return", gap 1, name "label", gap 1, operator "+", gap 1, name "name",
    mark ";"]),
  (0, [bracket "\x7d"])]

def typescript : Snippet := snippet .typescript [
  (0, [keyword "interface", gap 1, name "User", gap 1, bracket "\x7b"]),
  (1, [gap 4, name "id", mark ":", gap 1, name "number", mark ";"]),
  (1, [gap 4, name "tags", mark ":", gap 1, name "Array", bracket "<", name "string",
    bracket ">", mark ";"]),
  (0, [bracket "\x7d"]),
  (0, []),
  (0, [keyword "export", gap 1, keyword "const", gap 1, name "ids", gap 1, operator "=", gap 1,
    bracket "(", name "users", mark ":", gap 1, name "User", bracket "[", bracket "]",
    bracket ")", gap 1, operator "=>", gap 1, name "users", mark ".", name "map", bracket "(",
    name "u", gap 1, operator "=>", gap 1, name "u", mark ".", name "id", bracket ")", mark ";"])]

def tsx : Snippet := snippet .tsx [
  (0, [keyword "export", gap 1, keyword "function", gap 1, name "Badge", bracket "(",
    bracket "\x7b", gap 1, name "label", gap 1, bracket "\x7d", bracket ")", gap 1,
    bracket "\x7b"]),
  (1, [gap 4, keyword "return", gap 1, bracket "("]),
  (2, [gap 8, bracket "<", name "span", gap 1, name "className", operator "=", quote,
    quoted "badge", quote, bracket ">"]),
  (3, [gap 12, bracket "\x7b", name "label", bracket "\x7d"]),
  (2, [gap 8, bracket "</", name "span", bracket ">"]),
  (1, [gap 4, bracket ")", mark ";"]),
  (0, [bracket "\x7d"])]

end Embedded

def Snippet.embedded : Language → Snippet
  | .python => Embedded.python
  | .javascript => Embedded.javascript
  | .typescript => Embedded.typescript
  | .tsx => Embedded.tsx

end TypingTrainer
