import ShaderLift.Declaration.Resource
import ShaderLift.Declaration.Signature
import ShaderLift.Declaration.Variable
import ShaderLift.Table

namespace ShaderLift

/-- A constant buffer. A negative bind means that no register is known for it. -/
structure ConstantBuffer where
  name : Text
  bind : Int := -1
  size : Int := 0
  members : List Variable := []
  deriving DecidableEq

structure Structure where
  name : Text
  members : List Variable := []
  deriving DecidableEq

structure Declarations where
  resources : List Resource := []
  inputs : List Signature := []
  outputs : List Signature := []
  buffers : List ConstantBuffer := []
  structures : List Structure := []
  /-- The element structures of structured buffers, by the name of the buffer. -/
  elementStructures : Table Text := []
  deriving DecidableEq

namespace Declarations

def addResource (d : Declarations) (resource : Resource) : Declarations :=
  { d with resources := d.resources ++ [resource] }

def addInput (d : Declarations) (signature : Signature) : Declarations :=
  { d with inputs := d.inputs ++ [signature] }

def addOutput (d : Declarations) (signature : Signature) : Declarations :=
  { d with outputs := d.outputs ++ [signature] }

def addBuffer (d : Declarations) (buffer : ConstantBuffer) : Declarations :=
  { d with buffers := d.buffers ++ [buffer] }

def findStructure? (structures : List Structure) (name : Text) : Option Structure :=
  structures.find? fun s => s.name = name

/-- Adds a structure; the first one of a name stays. -/
def addStructure (d : Declarations) (added : Structure) : Declarations :=
  if (findStructure? d.structures added.name).isSome then d
  else { d with structures := d.structures ++ [added] }

/-- Gives a structured buffer its element structure; the first one stays. -/
def addElementStructure (d : Declarations) (resource structureName : Text) : Declarations :=
  { d with elementStructures := d.elementStructures.insertNew resource structureName }

end Declarations
end ShaderLift
