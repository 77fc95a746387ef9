import ShaderLift.Text.Basic

namespace ShaderLift

/-- A lexical unit with the number of its line, counted from one. -/
structure Token where
  text : Text
  line : Int
  deriving DecidableEq

namespace Token

/-- A character that ends a token and is dropped. -/
def isSeparator (c : Char) : Bool :=
  c == ' ' || c == '\t' || c == '\r' || c == '\n' || c == ','

/-- A character that ends a token and is a token itself. -/
def isCutoff (c : Char) : Bool :=
  c == '\x7b' || c == '\x7d' || c == '(' || c == ')' || c == ':'

def stripComment : Text → Text
  | [] => []
  | c :: rest => if c = '/' && rest.head? = some '/' then [] else c :: stripComment rest

/-- The token texts of a comment-free line when `current` is the part of one already read. -/
def splitFrom (current : Text) : Text → List Text
  | [] => if current.isEmpty then [] else [current]
  | c :: rest =>
    if isSeparator c || isCutoff c then
      let done := if current.isEmpty then [] else [current]
      let own := if isCutoff c then [[c]] else []
      done ++ own ++ splitFrom [] rest
    else splitFrom (current ++ [c]) rest

def ofLine (line : Text) : List Text := splitFrom [] (stripComment line)

/-- The tokens of consecutive lines, the first of which has the given number. -/
def ofLines (number : Int) : List Text → List Token
  | [] => []
  | line :: rest => (ofLine line).map (⟨·, number⟩) ++ ofLines (number + 1) rest

end Token

def tokenize (text : Text) : List Token := Token.ofLines 1 (Text.lines text)

end ShaderLift
