import ShaderLift.Declaration.ElementType
import ShaderLift.Fault

namespace ShaderLift

inductive Layout where
  | default | rowMajor | columnMajor
  deriving DecidableEq

structure Variable where
  type : Text
  name : Text
  offset : Int
  size : Int := 0
  layout : Layout := .default
  deriving DecidableEq

/-- The digits of the array dimensions in a text, when those read since an open bracket are
`digits?`. -/
def dimensionsFrom (digits? : Option Text) : Text → List Text
  | [] => []
  | c :: rest =>
    match digits? with
    | none => dimensionsFrom (if c = '[' then some [] else none) rest
    | some digits =>
      if c = '[' then dimensionsFrom (some []) rest
      else if Text.isDecimal c then dimensionsFrom (some (digits ++ [c])) rest
      else if c = ']' && !digits.isEmpty then
        digits :: dimensionsFrom none rest
      else dimensionsFrom none rest

/-- The name in front of the first bracket, and the array dimensions behind it. -/
def splitArrayName (name : Text) : Except Fault (Text × List Nat) := do
  let dimensions ← (dimensionsFrom none (name.dropWhile (· != '['))).mapM Fault.readDecimals
  return (name.takeWhile (· != '['), dimensions)

/-- How one element of a variable lies in registers: the type it is declared with, its registers,
and the components it uses in each. -/
structure RegisterLayout where
  type : Text
  rows : Nat
  columns : Nat
  deriving DecidableEq

namespace Variable

/-- A matrix takes one register per row when it is row-major and one per column otherwise; it is
declared so that its rows are its registers. All else takes one register. -/
def registerLayout (v : Variable) : RegisterLayout :=
  let single : RegisterLayout := ⟨v.type, 1, min (ElementType.count v.type) 4⟩
  match ElementType.matrix? v.type with
  | none => single
  | some matrix =>
    if 1 < matrix.rows && 1 < matrix.columns then
      if v.layout = .rowMajor then ⟨v.type, matrix.rows, matrix.columns⟩
      else
        let type :=
          matrix.base ++ Text.ofNat matrix.columns ++ "x" ++ Text.ofNat matrix.rows
        ⟨type, matrix.columns, matrix.rows⟩
    else single

def fieldType (v : Variable) : Text :=
  let layout := v.registerLayout
  if 1 < layout.rows then "row_major " ++ layout.type else layout.type

end Variable
end ShaderLift
