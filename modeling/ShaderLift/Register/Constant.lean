import ShaderLift.CutList
import ShaderLift.Declaration.Declarations

namespace ShaderLift

def slotSize : Int := 16

def shapeCount : List Nat → Nat
  | [] => 1
  | size :: rest => size * shapeCount rest

/-- The index vector of a position in an array of the given shape, last index fastest. -/
def unflatten (position : Nat) : List Nat → List Nat
  | [] => []
  | size :: rest => position / shapeCount rest % size :: unflatten position rest

/-- The index vector of any position for any sizes but zero, and what is left of the position in
front of the first index. Quotients are rounded down, so that an index has the sign of its size. -/
def unflattenAround (position : Int) : List Int → Except Fault (List Int × Int)
  | [] => .ok ([], position)
  | size :: rest => do
    let (indices, left) ← unflattenAround position rest
    if size = 0 then throw .emptyDimension
    return (left.fmod size :: indices, left.fdiv size)

def indexText (indices : List Nat) : Text := indices.flatMap fun i => "[" ++ Text.ofNat i ++ "]"

def largest : List Int → Int
  | [] => 0
  | first :: rest => rest.foldl max first

/-- The number of calls that fit on the stack while a variable is taken apart. It is a parameter of
the host, its limit less the calls in use, and this value is an assumption about it. -/
def callRoom : Nat := 992

/-- The bytes of a variable. To read the dimensions of one without a listed size takes two calls, the
second of a native function. -/
def Variable.byteSize (structures : List Structure) (room : Nat)
    (strideOf : Structure → Except Fault Int) (v : Variable) : Except Fault Int :=
  if v.size ≠ 0 then .ok v.size
  else if room < 2 then .error (@Fault.endlessStructure (room = 1))
  else do
    let count := shapeCount (← splitArrayName v.name).2
    match Declarations.findStructure? structures v.type with
    | some s => return (← strideOf s) * count
    | none =>
      let layout := v.registerLayout
      let registers : Int := layout.rows * count
      return (registers - 1) * slotSize + layout.columns * 4

/-- The distance between neighbouring elements of a structure: its extent, rounded up to whole
registers. To measure a structure takes three calls, and a fourth one for each member. -/
def Structure.stride (structures : List Structure) : Nat → Structure → Except Fault Int
  | room + 4, s => do
    let ends ← s.members.mapM fun m => do
      return m.offset + (← m.byteSize structures room (Structure.stride structures room))
    return -(-(largest ends)).fdiv slotSize * slotSize
  | room, s => if room = 3 ∧ s.members = [] then .ok 0 else .error (@Fault.endlessStructure false)

/-- A field without members: its access path, its place in bytes, and how it lies in registers. -/
structure LeafField where
  name : Text
  type : Text
  offset : Int
  dimensions : List Nat
  rows : Nat
  columns : Nat
  deriving DecidableEq

/-- A register of a leaf field: how it is accessed and which components of the register it
occupies. -/
structure ConstantEntry where
  name : Text
  element : Text
  /-- The selector of the occupied components, if they do not start with the first. -/
  swizzle : Text
  type : Text
  elementCount : Nat
  componentOffset : Nat
  deriving DecidableEq

def ConstantEntry.expression (entry : ConstantEntry) : Text := entry.name ++ entry.element

structure Placement where
  bind : Int
  slot : Int
  entry : ConstantEntry
  deriving DecidableEq

structure ConstantArray where
  bind : Int
  name : Text
  firstSlot : Int
  length : Nat
  rows : Nat
  columns : Nat
  deriving DecidableEq

/-- The register as it is written in an operand, with the selector of the occupied components. -/
def Placement.key (p : Placement) : Text :=
  "cb" ++ Text.ofInt p.bind ++ "[" ++ Text.ofInt p.slot ++ "]" ++ p.entry.swizzle

inductive ConstantFinding where
  | array (found : ConstantArray)
  | placement (found : Placement)
  deriving DecidableEq

namespace LeafField

def shape (leaf : LeafField) : List Nat :=
  if 1 < leaf.rows then leaf.dimensions ++ [leaf.rows] else leaf.dimensions

def firstSlot (leaf : LeafField) : Int := leaf.offset.fdiv slotSize

def component (leaf : LeafField) : Nat := (leaf.offset.fmod slotSize).toNat / 4

/-- The entry of a leaf for one of its registers; only the first can start behind component x. -/
def entryAt (leaf : LeafField) (position : Nat) : ConstantEntry :=
  let start := if position = 0 then leaf.component else 0
  let swizzle :=
    if start = 0 then [] else '.' :: Component.letters ((Component.all.drop start).take leaf.columns)
  { name := leaf.name, element := indexText (unflatten position leaf.shape), swizzle,
    type := leaf.type, elementCount := leaf.columns, componentOffset := start }

def placementAt (bind : Int) (leaf : LeafField) (position : Nat) : Placement :=
  ⟨bind, leaf.firstSlot + position, leaf.entryAt position⟩

def writableCount (bind : Int) (leaf : LeafField) : Nat :=
  if Text.isWritable bind then Text.writableRun leaf.firstSlot (shapeCount leaf.shape) else 0

def array? (bind : Int) (leaf : LeafField) : Option ConstantArray :=
  match leaf.dimensions with
  | [length] => some ⟨bind, leaf.name, leaf.firstSlot, length, leaf.rows, leaf.columns⟩
  | _ => none

/-- The array that a leaf is and its registers, as far as they can be written. -/
def findings (bind : Int) (leaf : LeafField) : CutList ConstantFinding :=
  let count := leaf.writableCount bind
  { items := (leaf.array? bind).toList.map .array ++
      (List.range count).map fun (position : Nat) => .placement (leaf.placementAt bind position)
    fault := if count < shapeCount leaf.shape then some .unwritableInteger else none }

end LeafField

/-- Takes a variable at a place in a buffer apart, below an access path. Each level of members takes
a call. -/
def Variable.findings (structures : List Structure) (bind : Int) :
    Nat → Int → Text → Variable → CutList ConstantFinding
  | depth, offset, path, v =>
    match splitArrayName v.name with
    | .error fault => .cut fault
    | .ok (base, dimensions) =>
      let name := path ++ base
      match Declarations.findStructure? structures v.type with
      | none =>
        let layout := v.registerLayout
        LeafField.findings bind ⟨name, v.type, offset, dimensions, layout.rows, layout.columns⟩
      | some s =>
        match depth with
        | 0 => .cut (@Fault.endlessStructure false)
        | below + 1 =>
          match s.stride structures (below + 1) with
          | .error fault => .cut fault
          | .ok stride =>
            let element := fun (position : Nat) =>
              CutList.collect (fun m =>
                Variable.findings structures bind below (offset + position * stride + m.offset)
                  (name ++ indexText (unflatten position dimensions) ++ ".") m) s.members
            CutList.collectFrom element 0 (shapeCount dimensions)

def ConstantBuffer.findings (structures : List Structure) (buffer : ConstantBuffer)
    (room : Nat := callRoom) : CutList ConstantFinding :=
  CutList.collect (fun v => v.findings structures buffer.bind room v.offset []) buffer.members

structure ConstantTables where
  registers : Table ConstantEntry := []
  fields : Table ConstantEntry := []
  placements : List Placement := []
  arrays : List ConstantArray := []

def ConstantFinding.array? : ConstantFinding → Option ConstantArray
  | array found => some found
  | placement _ => none

def ConstantFinding.placement? : ConstantFinding → Option Placement
  | array _ => none
  | placement found => some found

namespace ConstantTables

def ofPlacements (placements : List Placement) (arrays : List ConstantArray) : ConstantTables :=
  { registers := .ofFirsts (placements.map fun p => (p.key, p.entry))
    fields := .ofFirsts (placements.map fun p => (p.entry.expression, p.entry))
    placements, arrays }

def ofFindings (found : List ConstantFinding) : ConstantTables :=
  ofPlacements (found.filterMap ConstantFinding.placement?) (found.filterMap ConstantFinding.array?)

def entriesAt (tables : ConstantTables) (bind slot : Int) : List ConstantEntry :=
  (tables.placements.filter fun p => p.bind = bind && p.slot = slot).map Placement.entry

end ConstantTables
end ShaderLift
