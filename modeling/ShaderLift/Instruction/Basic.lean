import ShaderLift.Text.Basic

namespace ShaderLift

inductive Block where
  | branch
  | loop
  | select
  | label
  | other (name : Text)
  deriving DecidableEq

namespace Block

def name : Block → Text
  | branch => "if"
  | loop => "loop"
  | select => "switch"
  | label => "case"
  | other name => name

def ofName (name : Text) : Block :=
  if name = "if" then branch
  else if name = "loop" then loop
  else if name = "switch" then select
  else if name = "case" then label
  else other name

end Block

/-- A family of instructions that are read and written alike. In order: arithmetic, moves and
selection, bits and conversion, control flow, declarations, resource access. -/
inductive Family where
  | binary | call1 | call2 | multiplyAdd | integerMultiplyAdd | dot | wideMultiply | divide
  | sineCosine | negate
  | move | moveConditional | swapConditional | compare
  | complement | logic | shift | bitCall | bitExtract | bitInsert | toHalf | fromHalf | fromFloat
  | toFloat
  | ifMarker | elseMarker | endIf | loop | endLoop | switch | caseLabel | defaultLabel
  | endSwitch | breakOut | breakConditional | continueOn | continueConditional | leave
  | leaveConditional | discard | emitVertex | cutStrip | barrier | idle
  | declareTemps | declareIndexable | declareConstants | declareThreadGroup | declareSharedRaw
  | declareSharedStructured | declareInput | declareVertexCount | declarePrimitive
  | declareTopology | declareOther
  | sample | load | loadMultisampled | resourceInfo | levelOfDetail | gather | loadRaw
  | loadStructured | loadTyped | storeRaw | storeStructured | storeTyped | atomic
  | atomicReturning | atomicCounter
  deriving DecidableEq

inductive NumericKind where
  | float | int | uint
  deriving DecidableEq

/-- What is known of a mnemonic: its family, the number of its operands with the destinations, the
view of the operands, the operator or function it stands for, and a width or flag. -/
structure Opcode where
  family : Family
  arity : Nat
  kind : NumericKind
  symbol : Text
  width : Nat
  deriving DecidableEq

structure Instruction where
  mnemonic : Text
  opcode : Opcode
  saturate : Bool := false
  offsets : List Int := []
  resourceType : Text := []
  stride : Int := 0
  deriving DecidableEq

end ShaderLift
