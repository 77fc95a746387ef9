import ShaderLift.Text.Basic

namespace ShaderLift.ElementType

def scalars : List Text :=
  ["bool", "int", "uint", "half", "float", "double", "min16float", "min10float", "min16int",
    "min12int", "min16uint"]

def extent? : Char → Option Nat
  | '1' => some 1
  | '2' => some 2
  | '3' => some 3
  | '4' => some 4
  | _ => none

/-- The number of scalars in a vector or matrix type; a bare scalar or unknown type has none. -/
def count? (type : Text) : Option Nat :=
  scalars.findSome? fun scalar => do
    match ← Text.after? scalar type with
    | [n] => extent? n
    | [rows, 'x', columns] => return (← extent? rows) * (← extent? columns)
    | _ => none

def count (type : Text) : Nat := (count? type).getD 1

structure Matrix where
  base : Text
  rows : Nat
  columns : Nat
  deriving DecidableEq

/-- Takes a matrix type apart. Any lower-case letters and digits may name the elements, and one
newline may end the text. -/
def matrix? (type : Text) : Option Matrix := do
  match (Text.dropFinalNewline type).reverse with
  | columns :: 'x' :: rows :: base =>
    let rows ← extent? rows
    let columns ← extent? columns
    if base.isEmpty || !base.all (fun c => c.isLower || c.isDigit) then none
    else some ⟨base.reverse, rows, columns⟩
  | _ => none

end ShaderLift.ElementType
