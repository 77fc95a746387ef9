import ShaderLift.Body.ResourceOperand

namespace ShaderLift.Decoding

open Operand

def castEach (target : Swizzle) : List Text → Decoding (List Text)
  | [] => return []
  | raw :: rest => do
    let first ← cast (← resolve raw) target
    return first :: (← castEach target rest)

/-- Filtered sampling; the operands behind the sampler are gradients or scalars. -/
def sample (instruction : Instruction) : Decoding Unit := do
  let opcode := instruction.opcode
  let destination ← readDestination
  let coordinate ← resolve (← readRawOperand)
  let texture ← readResource
  let sampler ← samplerName (← readRawOperand)
  let extra ← readRawOperands (opcode.arity - 4)
  let dimension := texture.dimension 2
  let coordinate ← cast coordinate (.first dimension)
  let isGradient := opcode.symbol = "SampleGrad"
  let extraShape : Swizzle :=
    if isGradient then .first ((offsetDimensions.get? texture.baseType).getD dimension)
    else .first 1
  let extra ← castEach extraShape extra
  let offset := (texelOffset? instruction texture).toList
  let call := methodCall texture.name opcode.symbol (sampler :: coordinate :: extra ++ offset)
  -- comparisons give a scalar
  let selected := if Text.startsWith "SampleCmp" opcode.symbol then [] else texture.selected
  assign destination (← accessResult call selected destination.shape)

/-- Unfiltered loading by integer coordinates, a mip level or a sample index. -/
def load (instruction : Instruction) : Decoding Unit := do
  let destination ← readDestination
  let address ← resolve (← readRawOperand)
  let texture ← readResource
  let multisampled := instruction.opcode.family = .loadMultisampled
  let isBuffer := texture.baseType = "Buffer" || texture.baseType = "RWBuffer"
  let dimension := texture.dimension 2 + if !multisampled && !isBuffer then 1 else 0
  let address := asInteger (← cast address (.first dimension)) .signed
  let sampleIndex ←
    if multisampled then do
      let index ← scalar (← readRawOperand)
      pure [asInteger index .signed]
    else pure []
  let offset := (texelOffset? instruction texture).toList
  let call := methodCall texture.name "Load" (address :: sampleIndex ++ offset)
  let result ← accessResult call texture.selected destination.shape
  assign destination (if hasIntegerFormat texture.type? then asFloat result else result)

def resourceInfo (opcode : Opcode) : Decoding Unit := do
  let destination ← readDestination
  let mip ← scalar (← readRawOperand)
  let texture ← readResource
  match texture.type? with
  | none => pure ()
  | some type =>
    modifyContext fun c =>
      if c.resourceInfoTypes.contains type then c
      else { c with resourceInfoTypes := c.resourceInfoTypes ++ [type] }
  let plain := "GetResourceInfo(" ++ texture.name ++ ", " ++ asInteger mip .unsigned ++ ")"
  let call :=
    if opcode.kind = .uint then asFloat ("uint4(" ++ plain ++ ")")
    else if opcode.symbol.isEmpty then plain
    else opcode.symbol ++ "(" ++ plain ++ ")"
  assign destination (← accessResult call texture.selected destination.shape)

def levelOfDetail (opcode : Opcode) : Decoding Unit := do
  let destination ← readDestination
  let coordinate ← resolve (← readRawOperand)
  let texture ← readResource
  let sampler ← samplerName (← readRawOperand)
  let dimension := (offsetDimensions.get? texture.baseType).getD 2
  let coordinate ← cast coordinate (.first dimension)
  let call := methodCall texture.name opcode.symbol [sampler, coordinate]
  assign destination (← cast call destination.shape)

/-- The channel that a gather reads, from the component selected on the sampler. -/
def gatherChannel : List Component → Text
  | .y :: _ => "Green"
  | .z :: _ => "Blue"
  | .w :: _ => "Alpha"
  | _ => ""

/-- Gathering four texels; an opcode with a width has an offset operand. -/
def gather (instruction : Instruction) : Decoding Unit := do
  let opcode := instruction.opcode
  let destination ← readDestination
  let coordinate ← resolve (← readRawOperand)
  let offsetRaw ← readRawOperands (if opcode.width = 0 then 0 else 1)
  let texture ← readResource
  let samplerRaw ← readRawOperand
  let sampler ← samplerName samplerRaw
  let coordinate ← cast coordinate (.first (texture.dimension 2))
  let reference ←
    if opcode.symbol = "GatherCmp" then do
      let value ← scalar (← readRawOperand)
      pure [value]
    else pure []
  let offset ←
    match offsetRaw with
    | raw :: _ => do
      let value ← cast (← resolve raw) (.first 2)
      pure [asInteger value .signed]
    | [] => pure (texelOffset? instruction texture).toList
  let channel := gatherChannel (splitSelector (splitModifiers samplerRaw).inner).2
  let call :=
    methodCall texture.name (opcode.symbol ++ channel) (sampler :: coordinate :: reference ++ offset)
  assign destination (← accessResult call texture.selected destination.shape)

end ShaderLift.Decoding
