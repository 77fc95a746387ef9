import ShaderLift.Operand.Index
import ShaderLift.Operand.Literal
import ShaderLift.Register.Symbols

namespace ShaderLift.Registers

open Operand

/-- The row that a selection reads: the first one whose mask has the first selected component. -/
def packedOver? (entries : List SignatureEntry) (selected : List Component) :
    Option SignatureEntry :=
  match selected with
  | [] => entries.head?
  | first :: _ =>
    (entries.find? fun entry => entry.signature.mask.contains first.letter).or entries.head?

/-- The selector of a field for a selection on its register: moved down by the first component of
the row, and left out when it is the whole mask. -/
def fieldSelector (s : Signature) (selected : List Component) : Text :=
  if Component.letters selected = s.mask then []
  else
    Component.suffix (selected.map fun c => Component.cyclic (c.index - s.firstComponent.index))

def findRow? (side : SideTables) (base : Text) (selected : List Component) : Option Text := do
  let entry ← packedOver? (← side.entries.get? base) selected
  return entry.expression ++ fieldSelector entry.signature selected

/-- The vertex and register of an input register of a primitive, `v[1][0]`, as written. -/
def vertexInput? (base : Text) : Option (Text × Text) := do
  let behind ← Text.after? "v[" (Text.dropFinalNewline base)
  let (vertex, rest) := Text.spanDecimals behind
  let (register, rest) := Text.spanDecimals (← Text.after? "][" rest)
  if vertex.isEmpty || register.isEmpty || rest ≠ "]" then none else some (vertex, register)

def findVertexInput? (registers : Registers) (base : Text) (selected : List Component) :
    Option Text := do
  let (vertex, register) ← vertexInput? base
  let entry ← packedOver? (← registers.inputs.entries.get? ('v' :: register)) selected
  let expression :=
    match Text.after? "input." entry.expression with
    | some field => "input[" ++ vertex ++ "]." ++ field
    | none => entry.expression
  return expression ++ fieldSelector entry.signature selected

def findBuiltIn? (base : Text) (selected : List Component) : Option Text :=
  (Parameter.builtIn.get? base).map fun parameter => parameter.name ++ Component.suffix selected

def findResource? (tables : ResourceTables) (base : Text) (selected : List Component) :
    Option Text :=
  (tables.registers.get? base).map fun entry => entry.expandedName ++ Component.suffix selected

def constantRegister? (base : Text) : Option (Text × Text) := do
  let behind ← Text.after? "cb" (Text.dropFinalNewline base)
  let (bind, rest) := Text.spanDecimals behind
  let inside ← Text.after? ['['] rest
  let isInside := fun c => c != '[' && c != ']'
  let index := inside.takeWhile isInside
  if bind.isEmpty || index.isEmpty || inside.dropWhile isInside ≠ "]" then none
  else some (bind, index)

/-- The entry that a selection reads: the first one that occupies the first selected component. -/
def constantOver? (entries : List ConstantEntry) (selected : List Component) :
    Option ConstantEntry :=
  match selected with
  | [] => entries.head?
  | first :: _ =>
    (entries.find? fun entry =>
      entry.componentOffset ≤ first.index &&
        first.index < entry.componentOffset + entry.elementCount).or entries.head?

/-- The selector of a constant for a selection on its register, counted from its first component
and round its own components. -/
def constantSelector (entry : ConstantEntry) (selected : List Component) : Text :=
  let count := max entry.elementCount 1
  Component.suffix <| selected.map fun c =>
    Component.cyclic (((c.index : Int) - entry.componentOffset).fmod count).toNat

def reaches (array : ConstantArray) (bind slot : Int) : Bool :=
  array.bind = bind && array.firstSlot ≤ slot &&
    slot < array.firstSlot + (array.length * array.rows : Nat)

def arrayExpression (array : ConstantArray) (index : RelativeIndex) (selected : List Component) :
    Except Fault Text := do
  let relative := index.offset - array.firstSlot
  let position ←
    if relative = 0 then .ok index.register
    else (Fault.writeInteger relative).map fun (written : Text) =>
      index.register ++ " + " ++ written
  let element :=
    if 1 < array.rows then
      let grouped := if relative = 0 then position else "(" ++ position ++ ")"
      "[" ++ grouped ++ " / " ++ Text.ofNat array.rows ++ "][" ++ grouped ++ " % " ++
        Text.ofNat array.rows ++ "]"
    else "[" ++ position ++ "]"
  return array.name ++ element ++
    Component.suffix (selected.map fun c => Component.cyclic (c.index % array.columns))

def findArray? (tables : ConstantTables) (bind : Int) (index : Text) (selected : List Component) :
    Except Fault (Option Text) := do
  match ← relativeIndex? index with
  | none => return none
  | some relative =>
    match tables.arrays.find? fun array => reaches array bind relative.offset with
    | none => return none
    | some array => return some (← arrayExpression array relative selected)

def findConstant? (tables : ConstantTables) (operand : Text) : Except Fault (Option Text) := do
  match tables.registers.get? operand with
  | some entry => return some entry.expression
  | none =>
    let (base, selected) := splitSelector operand
    match constantRegister? base with
    | none => return none
    | some (bind, index) =>
      let bind ← Fault.readInteger bind
      let index := Text.trim index
      if !Text.allDigits index then findArray? tables bind index selected
      else
        let slot ← Fault.readInteger index
        return (constantOver? (tables.entriesAt bind slot) selected).map fun entry =>
          entry.expression ++ constantSelector entry selected

/-- The name behind an operand without modifiers. Inputs come first, then outputs, textures,
samplers, unordered-access views and constants. -/
def findName? (registers : Registers) (inner : Text) : Except Fault (Option Text) :=
  let (base, selected) := splitSelector inner
  let named := (findRow? registers.inputs base selected).or <|
    (registers.findVertexInput? base selected).or <|
    (findBuiltIn? base selected).or <|
    (findRow? registers.outputs base selected).or <|
    (findResource? registers.textures base selected).or <|
    (findResource? registers.samplers base selected).or
      (findResource? registers.uavs base selected)
  match named with
  | some name => .ok (some name)
  | none => findConstant? registers.constants inner

def query (registers : Registers) (operand : Text) : Except Fault (Option Text) := do
  let modified := splitModifiers operand
  return (← registers.findName? modified.inner).map modified.around

def behind? (tables : ResourceTables) (operand : Text) : Option ResourceEntry :=
  tables.registers.get? (splitSelector (splitModifiers operand).inner).1

end ShaderLift.Registers
