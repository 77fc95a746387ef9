import ShaderLift.Register.Constant
import ShaderLift.Register.Resource
import ShaderLift.Register.Signature

namespace ShaderLift

structure Registers where
  inputs : SideTables := {}
  outputs : SideTables := {}
  textures : ResourceTables := {}
  samplers : ResourceTables := {}
  uavs : ResourceTables := {}
  constants : ConstantTables := {}

structure Symbols where
  declared : Declarations := {}
  registers : Registers := {}

/-- Declarations and register tables after resolution, what was noticed on the way, and the fault
that ended it early. What was resolved before the fault stays. -/
structure Resolution where
  declared : Declarations
  registers : Registers
  notices : Log
  fault : Option Fault

namespace ConstantBuffer

def listedBind? (resources : List Resource) (buffer : ConstantBuffer) : Option Int :=
  (resources.find? fun r => r.kind = .constantBuffer && r.name = buffer.name).map Resource.bind

/-- A buffer's register: the listed one, or else the one it has, or else its place among the
buffers. -/
def settledBind (resources : List Resource) (place : Nat) (buffer : ConstantBuffer) : Int :=
  (buffer.listedBind? resources).getD (if buffer.bind < 0 then place else buffer.bind)

def bound (resources : List Resource) (place : Nat) (buffer : ConstantBuffer) : ConstantBuffer :=
  { buffer with bind := buffer.settledBind resources place }

/-- The buffer with its size settled: where its last variable ends. -/
def measured (buffer : ConstantBuffer) : ConstantBuffer :=
  { buffer with size := largest (buffer.members.map fun v => v.offset + v.size) }

def bindNotices (resources : List Resource) (place : Nat) (buffer : ConstantBuffer) : Log :=
  if (buffer.listedBind? resources).isNone && buffer.bind < 0 then
    [.unlistedBuffer buffer.name (buffer.settledBind resources place)]
  else []

end ConstantBuffer

structure BufferResolution where
  buffers : List ConstantBuffer := []
  found : List ConstantFinding := []
  notices : Log := []
  fault : Option Fault := none

/-- Resolves buffers, the first of which has the given place among all. A buffer gets its register
before it is taken apart and its size afterwards; those behind a fault stay as they are. -/
def BufferResolution.ofBuffers (d : Declarations) (place : Nat) (buffers : List ConstantBuffer)
    (room : Nat := callRoom) : BufferResolution :=
  match buffers with
  | [] => {}
  | buffer :: rest =>
    let bound := buffer.bound d.resources place
    let notices := buffer.bindNotices d.resources place
    let taken := bound.findings d.structures room
    match taken.fault with
    | some fault => { buffers := bound :: rest, found := taken.items, notices, fault := some fault }
    | none =>
      let others := BufferResolution.ofBuffers d (place + 1) rest room
      { buffers := bound.measured :: others.buffers
        found := taken.items ++ others.found
        notices := notices ++ others.notices
        fault := others.fault }

namespace Declarations

def ranked (d : Declarations) : Declarations :=
  { d with inputs := Signature.rank d.inputs, outputs := Signature.rank d.outputs }

def summary (d : Declarations) (r : Registers) : Notice :=
  .resolved d.inputs.length d.outputs.length r.textures.declared.length
    r.samplers.declared.length r.uavs.declared.length r.constants.registers.length

/-- Resolves signatures, textures, samplers, unordered-access views and buffers, in this order and
up to the first fault. -/
def resolve (d : Declarations) (room : Nat := callRoom) : Resolution :=
  let ranked := d.ranked
  let textures := ResourceTables.textures d
  let samplers := if textures.fault.isSome then {} else ResourceTables.samplers d
  let fault := textures.fault.or samplers.fault
  let uavs := if fault.isSome then {} else ResourceTables.uavs d
  let fault := fault.or uavs.fault
  let constants :=
    if fault.isSome then { buffers := d.buffers }
    else BufferResolution.ofBuffers d 0 d.buffers room
  let fault := fault.or constants.fault
  let registers : Registers :=
    { inputs := .ofRows .input ranked.inputs
      outputs := .ofRows .output ranked.outputs
      textures, samplers, uavs
      constants := .ofFindings constants.found }
  { declared := { ranked with buffers := constants.buffers }
    registers
    notices := textures.notices ++ samplers.notices ++ uavs.notices ++ constants.notices ++
      if fault.isSome then [] else [ranked.summary registers]
    fault }

end Declarations
end ShaderLift
