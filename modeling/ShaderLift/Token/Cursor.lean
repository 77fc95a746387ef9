import ShaderLift.Fault
import ShaderLift.Token

namespace ShaderLift

/-- The tokens already read, latest first, and those still to come. -/
structure Cursor where
  passed : List Token := []
  rest : List Token := []
  deriving DecidableEq

namespace Cursor

def ofTokens (tokens : List Token) : Cursor := ⟨[], tokens⟩

def ofText (text : Text) : Cursor := ofTokens (tokenize text)

def tokens (cursor : Cursor) : List Token := cursor.passed.reverse ++ cursor.rest

def position (cursor : Cursor) : Nat := cursor.passed.length

def atEnd (cursor : Cursor) : Bool := cursor.rest.isEmpty

def head? (cursor : Cursor) : Option Token := cursor.rest.head?

/-- The line of the next token, or of the last one when all are read. -/
def line? (cursor : Cursor) : Option Int :=
  ((cursor.rest.head?).or cursor.passed.head?).map Token.line

/-- The token some places ahead. In front of the first token, places count from the last one. -/
def peek (cursor : Cursor) (offset : Int) : Except Fault (Option Token) :=
  let index := cursor.position + offset
  let all := cursor.tokens
  if all.length ≤ index then .ok none
  else (Fault.placeAt all.length index .tokenRange).map fun place => all[place]?

def next (cursor : Cursor) : Except Fault (Token × Cursor) :=
  match cursor.rest with
  | [] => .error (.decode .endOfListing cursor.line?)
  | token :: rest => .ok (token, ⟨token :: cursor.passed, rest⟩)

def isAt (cursor : Cursor) (text : Text) : Bool :=
  match cursor.rest with
  | [] => false
  | token :: _ => token.text == text

def passLine (line : Int) (passed : List Token) : List Token → Cursor
  | [] => ⟨passed, []⟩
  | token :: rest =>
    if token.line = line then passLine line (token :: passed) rest else ⟨passed, token :: rest⟩

def skipLine (cursor : Cursor) : Cursor :=
  match cursor.passed with
  | [] => cursor
  | token :: _ => passLine token.line cursor.passed cursor.rest

end Cursor
end ShaderLift
