import ShaderLift.Fault
import ShaderLift.Swizzle
import ShaderLift.Text.Integer

namespace ShaderLift.Operand

/-- Walks on from a place with a number of open brackets, to where the last of them is closed. A
bracket is a text of one character; any other text is met nowhere. -/
def closingFrom (opening closing : Text) (place depth : Int) : Text → Option Int
  | [] => none
  | c :: rest =>
    if [c] = opening then closingFrom opening closing (place + 1) (depth + 1) rest
    else if [c] = closing then
      if depth = 1 then some place else closingFrom opening closing (place + 1) (depth - 1) rest
    else closingFrom opening closing (place + 1) depth rest

def findClosing (text : Text) (start : Nat) (opening closing : Text) : Option Int :=
  closingFrom opening closing start 0 (text.drop start)

/-- The closing place when the start may be negative. It then counts from the end, the walk goes on
from the end to the first character, and places before that one are negative. -/
def findClosingAround (text : Text) (start : Int) (opening closing : Text) :
    Except Fault (Option Int) := do
  if 0 ≤ start then return findClosing text start.toNat opening closing
  let place ← Fault.placeAt text.length start .characterRange
  return closingFrom opening closing start 0 (text.drop place ++ text)

/-- The arguments of a text when some brackets are open and `current` is the part of an argument
already read. Blanks around arguments are dropped, and so is an empty argument at the end. -/
def argumentsFrom (depth : Int) (current : Text) : Text → List Text
  | [] => if (Text.trim current).isEmpty then [] else [Text.trim current]
  | c :: rest =>
    let inside :=
      if c = '(' || c = '[' then depth + 1 else if c = ')' || c = ']' then depth - 1 else depth
    if c = ',' && inside = 0 then Text.trim current :: argumentsFrom inside [] rest
    else argumentsFrom inside (current ++ [c]) rest

def splitArguments (text : Text) : List Text := argumentsFrom 0 [] text

def isHexDigit (c : Char) : Bool :=
  c.isDigit || ('a' ≤ c && c ≤ 'f') || ('A' ≤ c && c ≤ 'F')

def isExponent : Text → Bool
  | [] => true
  | mark :: rest =>
    let digits :=
      match rest with
      | '+' :: digits => digits
      | '-' :: digits => digits
      | digits => digits
    (mark == 'e' || mark == 'E') && !digits.isEmpty && digits.all Text.isDecimal

def isDecimalNumber (text : Text) : Bool :=
  match Text.spanDecimals text with
  | ([], '.' :: rest) =>
    let (fraction, exponent) := Text.spanDecimals rest
    !fraction.isEmpty && isExponent exponent
  | ([], _) => false
  | (_, '.' :: rest) => isExponent (Text.spanDecimals rest).2
  | (_, rest) => isExponent rest

def isUnsigned (text : Text) : Bool :=
  match text with
  | '0' :: mark :: rest =>
    if mark = 'x' || mark = 'X' then !rest.isEmpty && rest.all isHexDigit else isDecimalNumber text
  | _ => isDecimalNumber text

def isNumber (text : Text) : Bool :=
  match Text.dropFinalNewline text with
  | '+' :: rest => isUnsigned rest
  | '-' :: rest => isUnsigned rest
  | rest => isUnsigned rest

structure Modified where
  negate : Bool
  inner : Text
  absolute : Bool
  deriving DecidableEq

def absoluteInner? (text : Text) : Option Text :=
  match text with
  | '|' :: rest =>
    if 2 < text.length && rest.getLast? = some '|' then some rest.dropLast else none
  | _ =>
    if Text.startsWith "abs(" text && findClosing text 3 "(" ")" = some (text.length - 1 : Int) then
      some (text.drop 4).dropLast
    else none

def splitModifiers (operand : Text) : Modified :=
  let negate := operand.head? = some '-' && !isNumber operand
  let signless := if negate then operand.drop 1 else operand
  match absoluteInner? signless with
  | some inner => ⟨negate, inner, true⟩
  | none => ⟨negate, signless, false⟩

def applyModifiers (inner : Text) (negate absolute : Bool) : Text :=
  let text := if absolute then "abs(" ++ inner ++ ")" else inner
  if negate then '-' :: text else text

def Modified.around (modified : Modified) (inner : Text) : Text :=
  applyModifiers inner modified.negate modified.absolute

def componentLetters? : Text → Option (List Component)
  | [] => some []
  | letter :: rest =>
    match Component.ofLetter? letter, componentLetters? rest with
    | some component, some components => some (component :: components)
    | _, _ => none

/-- The expression without its selector, and the selected components. A selector is a dot behind a
nonempty expression with one to four component letters; without one no component is selected. -/
def splitSelector (expression : Text) : Text × List Component :=
  match Text.splitLast? '.' expression with
  | none => (expression, [])
  | some (base, letters) =>
    if base.isEmpty || letters.isEmpty || 4 < letters.length then (expression, [])
    else
      match componentLetters? letters with
      | some components => (base, components)
      | none => (expression, [])

/-- Fits the selector to a target: each target component takes the letter at its own index in
the selector, which is repeated as often as needed. An expression without selector, an empty
target and a selector equal to the target change nothing. -/
def reselect (expression : Text) (target : Swizzle) : Except Fault Text :=
  let (base, selected) := splitSelector expression
  if selected.isEmpty || target.count = 0 || Component.letters selected = target.pattern then
    .ok expression
  else do
    let lanes ← target.components
    let fitted := lanes.filterMap fun lane => selected[lane.index % selected.length]?
    return base ++ Component.suffix fitted

end ShaderLift.Operand
