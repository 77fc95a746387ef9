import ShaderLift.Body.Bits

namespace ShaderLift

open Operand

/-- A resource operand: the name it is accessed by, the components selected on it, its binding if
known, and the words of an element if it is group-shared memory. -/
structure ResourceOperand where
  name : Text
  selected : List Component
  entry : Option ResourceEntry := none
  sharedWords : Option Int := none

def baseTypeOf (type : Text) : Text := type.takeWhile (· != '<')

def parameterOf? (type : Text) : Option Text :=
  match type.dropWhile (· != '<') with
  | _ :: rest => some (Text.trimEndOf '>' rest)
  | [] => none

def hasIntegerFormat (type : Option Text) : Bool :=
  (type.bind parameterOf?).any fun element =>
    Text.startsWith "uint" element || Text.startsWith "int" element

def formatCount (type : Option Text) : Nat :=
  match type.bind parameterOf? with
  | none => 4
  | some element => ElementType.count element

def offsetDimensions : Table Nat :=
  [("Texture1D", 1), ("Texture1DArray", 1), ("Texture2D", 2), ("Texture2DArray", 2),
    ("Texture2DMS", 2), ("Texture2DMSArray", 2), ("Texture3D", 3), ("TextureCube", 3),
    ("TextureCubeArray", 3)]

namespace ResourceOperand

def isShared (r : ResourceOperand) : Bool := r.sharedWords.isSome

def type? (r : ResourceOperand) : Option Text := r.entry.map ResourceEntry.type

def baseType (r : ResourceOperand) : Text := (r.type?.map baseTypeOf).getD []

/-- The number of coordinate components, or what to assume for an unknown resource. -/
def dimension (r : ResourceOperand) (assumed : Nat) : Nat :=
  (r.entry.map fun entry => entry.dimension.toNat).getD assumed

end ResourceOperand

namespace Decoding

def readResource : Decoding ResourceOperand := do
  let raw ← readRawOperand
  let (base, selected) := splitSelector (splitModifiers raw).inner
  match (← get).context.sharedMemory.get? base with
  | some words => return { name := base, selected, sharedWords := some words }
  | none =>
    let registers ← registers
    match (Registers.behind? registers.uavs raw).or
        (Registers.behind? registers.textures raw) with
    | some entry => return { name := entry.expandedName, selected, entry := some entry }
    | none =>
      note (.unknownResource raw (← get).line)
      return { name := base, selected }

def samplerName (raw : Text) : Decoding Text := do
  match Registers.behind? (← registers).samplers raw with
  | some entry => return entry.expandedName
  | none => return (splitSelector (splitModifiers raw).inner).1

def scalar (raw : Text) : Decoding Text := do
  cast (← resolve raw) (.first 1)

def texelOffset? (instruction : Instruction) (resource : ResourceOperand) : Option Text :=
  let count := (offsetDimensions.get? resource.baseType).getD 2
  let offsets := instruction.offsets.take count
  if offsets.all (· = 0) then none
  else
    let values := Text.commaList (offsets.map Text.ofInt)
    some (if 1 < count then "int" ++ Text.ofNat count ++ "(" ++ values ++ ")" else values)

/-- The result of an access: the selection on the resource, cast to the destination. -/
def accessResult (access : Text) (selected : List Component) (target : Swizzle) :
    Decoding Text := do
  return dropFullSelector (← cast (access ++ Component.suffix selected) target)

def methodCall (resource method : Text) (arguments : List Text) : Text :=
  resource ++ "." ++ method ++ "(" ++ Text.commaList arguments ++ ")"

end Decoding
end ShaderLift
