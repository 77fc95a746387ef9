import ShaderLift.Body.Decoder

namespace ShaderLift

open Operand

/-- A destination: its expression without a full selector, the components it writes, and its
expression with a selector for each of them. -/
structure Destination where
  name : Text := []
  shape : Swizzle := {}
  full : Text := []
  deriving DecidableEq

def Destination.isNull (d : Destination) : Bool := d.name.isEmpty

namespace Decoding

/-- Reads on to a closing parenthesis on the given line: the texts in front of it, if it is there,
and the place reached. -/
def groupFrom (line : Option Int) (passed : List Token) (values : List Text) :
    List Token → Option (List Text) × Cursor
  | [] => (none, ⟨passed, []⟩)
  | token :: rest =>
    if !isOnLine line token then (none, ⟨passed, token :: rest⟩)
    else if token.text = ")" then (some values, ⟨token :: passed, rest⟩)
    else groupFrom line (token :: passed) (values ++ [token.text]) rest

def readGroup : Decoding (List Text) := do
  discard nextToken
  let d ← get
  let (values, cursor) := groupFrom d.line d.cursor.passed [] d.cursor.rest
  setCursor cursor
  match values with
  | some values => return values
  | none => fail .openParenthesis

def nextOperandToken : Decoding Token := do
  match ← peekOnLine with
  | some _ => nextToken
  | none => fail (.missingOperand ((← get).instruction.map Instruction.mnemonic))

def bracketsClosed (text : Text) : Bool := text.count '[' ≤ text.count ']'

/-- Joins tokens of the given line to a text until its brackets are closed. -/
def joinFrom (line : Option Int) (passed : List Token) (text : Text) :
    List Token → Option Text × Cursor
  | [] => (if bracketsClosed text then some text else none, ⟨passed, []⟩)
  | token :: rest =>
    if bracketsClosed text then (some text, ⟨passed, token :: rest⟩)
    else if !isOnLine line token then (none, ⟨passed, token :: rest⟩)
    else joinFrom line (token :: passed) (text ++ " " ++ token.text) rest

def literalText : List Text → Text
  | [value] => value
  | values => "float" ++ Text.ofNat values.length ++ "(" ++ Text.commaList values ++ ")"

def readLiteral : Decoding Text := do
  let values ← readGroup
  if values.isEmpty then fail .emptyLiteral
  return literalText values

def closeBrackets (text : Text) : Decoding Text := do
  let d ← get
  let (joined, cursor) := joinFrom d.line d.cursor.passed text d.cursor.rest
  setCursor cursor
  match joined with
  | some joined => return joined
  | none => fail (.missingOperand (d.instruction.map Instruction.mnemonic))

/-- Reads one operand as written, with the parts of a literal or an index put together. -/
def readRawOperand : Decoding Text := do
  let first ← nextOperandToken
  let d ← get
  if (first.text = "l" || first.text = "d") && d.cursor.isAt "(" then readLiteral
  else closeBrackets first.text

def resolve (raw : Text) : Decoding Text := do
  match ← (← registers).query raw with
  | some name => return name
  | none =>
    let modified := splitModifiers raw
    return modified.around (← normalizeIndexed modified.inner)

def cast (expression : Text) (target : Swizzle) : Decoding Text := do
  (← registers).cast expression target

def dropFullSelector (expression : Text) : Text := (Text.before? ".xyzw" expression).getD expression

def readDestination : Decoding Destination := do
  let raw ← readRawOperand
  if raw = "null" then return {}
  let shape := swizzleOf raw
  let name ← resolve raw
  let full :=
    if shape.count ≠ 0 && (splitSelector name).2.isEmpty then
      name ++ '.' :: (Swizzle.first shape.count).pattern
    else name
  return ⟨dropFullSelector name, shape, full⟩

def readSource (target : Swizzle) : Decoding Text := do
  cast (← resolve (← readRawOperand)) target

def readSources (target : Swizzle) : Nat → Decoding (List Text)
  | 0 => return []
  | count + 1 => do
    let first ← readSource target
    return first :: (← readSources target count)

def readRawOperands : Nat → Decoding (List Text)
  | 0 => return []
  | count + 1 => do
    let first ← readRawOperand
    return first :: (← readRawOperands count)

def readInt : Decoding Int := do
  let raw ← readRawOperand
  match Text.toInt raw with
  | .ok value => return value
  | .error _ => fail (.integerExpected raw)

/-- One lane of an expression that supplies a number of components. -/
def lane (expression : Text) (position count : Int) : Decoding Text := do
  let modified := splitModifiers expression
  let inner := modified.inner
  let selectable :=
    if (literal? inner).isNone && (splitSelector inner).2.isEmpty then
      inner ++ '.' :: Component.letters (Component.before count)
    else inner
  let component ← Swizzle.componentAt position
  return modified.around (← cast selectable (.ofComponents [component]))

def assign (destination : Destination) (value : Text) : Decoding Unit := do
  if !destination.isNull then emitAssignment destination.name value

def assignFrom (destination : Destination) (build : Nat → Decoding Text) (position : Nat) :
    Nat → Decoding Unit
  | 0 => return
  | remaining + 1 => do
    let target ← lane destination.full position destination.shape.count
    assign ⟨target, ⟨"x"⟩, target⟩ (← build position)
    assignFrom destination build (position + 1) remaining

/-- Assigns a value built whole, or built lane by lane when several components are written. -/
def assignLanes (destination : Destination) (whole : Decoding Text) (build : Nat → Decoding Text) :
    Decoding Unit := do
  if destination.shape.count ≤ 1 then assign destination (← whole)
  else assignFrom destination build 0 destination.shape.count

end Decoding
end ShaderLift
