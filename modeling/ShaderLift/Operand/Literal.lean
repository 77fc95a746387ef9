import ShaderLift.Operand.Basic

namespace ShaderLift.Operand

structure Constructor where
  word : Text
  body : Text
  deriving DecidableEq

def constructorWords : List Text :=
  ["float", "int", "uint", "double", "half", "bool", "l"]

/-- Reads `float3(…)` and its like; the width is optional, and one newline may end the text. -/
def constructor? (expression : Text) : Option Constructor := do
  let text := Text.dropFinalNewline expression
  let (word, rest) ← constructorWords.findSome? fun word => (Text.after? word text).map (word, ·)
  let rest :=
    match rest with
    | width :: more => if '1' ≤ width && width ≤ '4' then more else rest
    | [] => rest
  let behind ← Text.after? ['('] rest
  let body ← Text.before? [')'] behind
  if body.contains '\n' then none else some ⟨word, body⟩

/-- A literal: its component values as written, and whether it counts as written with points. -/
structure Literal where
  values : List Text
  hasPoint : Bool
  deriving DecidableEq

def literal? (expression : Text) : Option Literal :=
  if isNumber expression then some ⟨[expression], expression.contains '.'⟩
  else
    match constructor? expression with
    | none => none
    | some constructed =>
      let values := splitArguments constructed.body
      if values.isEmpty || !values.all isNumber then none
      else some ⟨values, values.all (·.contains '.')⟩

/-- The values at the target's components, or the first component that the values lack. -/
def selectValues (expression : Text) (values : List Text) :
    List Component → Except Fault (List Text)
  | [] => .ok []
  | lane :: rest =>
    match values[lane.index]? with
    | none => .error (.decode (.missingComponent expression lane) none)
    | some value => (selectValues expression values rest).map (value :: ·)

def selectLiteral (expression : Text) (target : Swizzle) : Except Fault Text :=
  match constructor? expression with
  | none => .ok expression
  | some constructed =>
    if target.count = 0 then .ok expression
    else do
      let lanes ← target.components
      let selected ← selectValues expression (splitArguments constructed.body) lanes
      match selected with
      | [value] => return value
      | _ =>
        let word : Text := if constructed.word = "l" then "float" else constructed.word
        return word ++ Text.ofNat selected.length ++ "(" ++ Text.commaList selected ++ ")"

def swizzleOf (operand : Text) : Swizzle :=
  let inner := (splitModifiers operand).inner
  if (constructor? inner).isSome || isNumber inner then {}
  else .ofComponents (splitSelector inner).2

/-- How the bits of an operand are read as an integer, named by the function that reads them. -/
structure IntegerView where
  cast : Text
  deriving DecidableEq

namespace IntegerView

def signed : IntegerView := ⟨"asint"⟩

def unsigned : IntegerView := ⟨"asuint"⟩

def type (view : IntegerView) : Text := if view = unsigned then "uint" else "int"

end IntegerView

/-- An operand as an integer: literals without a point stay literals, all else is reinterpreted. -/
def asInteger (expression : Text) (view : IntegerView) : Text :=
  match literal? expression with
  | some literal =>
    if literal.values.any (·.contains '.') then view.cast ++ "(" ++ expression ++ ")"
    else if literal.values.length = 1 && isNumber expression then expression
    else
      view.type ++ Text.ofNat literal.values.length ++ "(" ++ Text.commaList literal.values ++ ")"
  | none => view.cast ++ "(" ++ expression ++ ")"

end ShaderLift.Operand
