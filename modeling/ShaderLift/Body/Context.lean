import ShaderLift.Declaration.Signature
import ShaderLift.Declaration.Stage
import ShaderLift.Instruction.Basic
import ShaderLift.Text.Basic

namespace ShaderLift

/-- A statement with its nesting depth. Assignments keep their two sides apart, so that it stays
visible which register a statement writes and whether the written value is clamped. -/
inductive Statement where
  | blank
  | code (depth : Nat) (text : Text)
  | assign (depth : Nat) (target value : Text) (saturate : Bool)
  deriving DecidableEq

namespace Statement

def ofText (depth : Nat) (text : Text) : Statement :=
  if text.isEmpty then blank else code depth text

def body : Statement → Text
  | blank => []
  | code _ text => text
  | assign _ target value saturate =>
    let right := if saturate then "saturate(" ++ value ++ ")" else value
    target ++ " = " ++ right ++ ";"

def depth : Statement → Nat
  | blank => 0
  | code depth _ => depth
  | assign depth _ _ _ => depth

def render (indent : Text) (s : Statement) : Text := Text.times s.depth indent ++ s.body

end Statement

structure Config where
  entryPoint : Text := "main"
  indent : Text := "    "
  /-- Refuse unbalanced blocks instead of reporting them. -/
  strict : Bool := false

structure Context where
  stage : Option Stage := none
  /-- The nesting depth; unbalanced markers can make it negative. -/
  depth : Int := 0
  blocks : List Block := []
  statements : List Statement := []
  threadGroup : Option (Int × Int × Int) := none
  resourceInfoTypes : List Text := []
  declaredTemps : List Nat := []
  globalDeclarations : List Text := []
  /-- Group-shared arrays with the words of an element, zero for raw arrays. -/
  sharedMemory : Table Int := []
  parameters : List Parameter := []
  maxVertexCount : Option Int := none
  inputPrimitive : Option Text := none
  outputTopology : Option Text := none
  emitsVertices : Bool := false

namespace Context

def usesResourceInfo (c : Context) : Bool := !c.resourceInfoTypes.isEmpty

def hasOutputStream (c : Context) : Bool := c.stage == some .geometry && c.outputTopology.isSome

end Context
end ShaderLift
