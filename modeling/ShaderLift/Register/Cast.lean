import ShaderLift.Register.Query

namespace ShaderLift.Registers

open Operand

/-- A text without a digit at its end, or without two digits with an x between them. -/
def dropExtents (text : Text) : Text :=
  match text.reverse with
  | last :: 'x' :: first :: rest =>
    if !Text.isDecimal last then text
    else if Text.isDecimal first then rest.reverse
    else ('x' :: first :: rest).reverse
  | last :: rest => if Text.isDecimal last then rest.reverse else text
  | [] => text

/-- A type without its vector or matrix suffix; a newline at the end stays. -/
def scalarType (type : Text) : Text :=
  match Text.before? ['\n'] type with
  | some line => dropExtents line ++ ['\n']
  | none => dropExtents type

def spread (entry : ConstantEntry) (target : Swizzle) (scalar : Text) : Text :=
  scalarType entry.type ++ Text.ofNat target.count ++ "(" ++ scalar ++ ")"

/-- Casts an expression without modifiers: literals are selected from, known constants are completed
to all their components or spread, and any other selector is fitted to the target. -/
def castInner (registers : Registers) (inner : Text) (target : Swizzle) : Except Fault Text :=
  if (constructor? inner).isSome && (literal? inner).isSome then selectLiteral inner target
  else
    match registers.constants.fields.get? inner with
    | some entry =>
      if entry.elementCount = target.count then .ok inner
      else if entry.elementCount = 1 then .ok (spread entry target inner)
      else
        reselect (inner ++ '.' :: Component.letters (Component.first entry.elementCount)) target
    | none =>
      let (base, selected) := splitSelector inner
      match if selected.isEmpty then none else registers.constants.fields.get? base with
      | some entry =>
        if entry.elementCount = 1 && 1 < target.count then .ok (spread entry target base)
        else reselect inner target
      | none => reselect inner target

/-- Casts an expression to a target's components; an empty target changes nothing. -/
def cast (registers : Registers) (expression : Text) (target : Swizzle) : Except Fault Text :=
  if target.count = 0 then .ok expression
  else do
    let modified := splitModifiers expression
    return modified.around (← registers.castInner modified.inner target)

end ShaderLift.Registers
