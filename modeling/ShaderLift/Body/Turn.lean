import ShaderLift.Body.Arithmetic
import ShaderLift.Body.Atomic
import ShaderLift.Body.Declaration
import ShaderLift.Body.Flow
import ShaderLift.Body.Texture

namespace ShaderLift.Decoding

def resourceKeywords : List Text :=
  ["buffer", "texture1d", "texture1darray", "texture2d", "texture2darray", "texture2dms",
    "texture2dmsarray", "texture3d", "texturecube", "texturecubearray", "raw_buffer",
    "structured_buffer"]

def looksInteger (text : Text) : Bool := Text.allDigits (text.dropWhile (· == '-'))

def applyStrides (instruction : Instruction) : List Text → Except Fault Instruction
  | [] => .ok instruction
  | value :: rest =>
    match Text.after? "stride=" value with
    | none => applyStrides instruction rest
    | some digits => do
      let stride ← Fault.readInteger digits
      applyStrides { instruction with stride } rest

/-- Takes over a group of modifiers: texel offsets if all its values are integers, else a resource
dimension and a stride. -/
def applyGroup (instruction : Instruction) (values : List Text) : Except Fault Instruction :=
  match values with
  | [] => .ok instruction
  | first :: _ =>
    if values.all looksInteger then do
      let offsets ← values.mapM Fault.readInteger
      return { instruction with offsets }
    else
      let keyword := Text.lower first
      let typed :=
        if resourceKeywords.contains keyword then { instruction with resourceType := keyword }
        else instruction
      applyStrides typed values

/-- The instruction with a suffix that follows its modifiers; an unknown one changes nothing. -/
def applySuffix (instruction : Instruction) (text : Text) : Instruction :=
  match Instruction.classify? (instruction.mnemonic ++ text) with
  | none => instruction
  | some suffixed =>
    { suffixed with
      offsets := instruction.offsets
      resourceType := instruction.resourceType
      stride := instruction.stride
      saturate := suffixed.saturate || instruction.saturate }

/-- Reads the groups and suffixes behind a mnemonic, at most as many as the bound. -/
def readModifiersWithin : Nat → Instruction → Decoding Instruction
  | 0, instruction => return instruction
  | bound + 1, instruction => do
    match ← peekOnLine with
    | none => return instruction
    | some token =>
      if token.text = "(" then
        let values ← readGroup
        readModifiersWithin bound (← applyGroup instruction values)
      else if token.text.head? = some '_' then
        discard nextToken
        readModifiersWithin bound (applySuffix instruction token.text)
      else return instruction

/-- Reads the groups and suffixes behind a mnemonic. Each takes a token at least, so there are no
more of them than tokens left. -/
def readModifiers (instruction : Instruction) : Decoding Instruction := do
  readModifiersWithin (← get).cursor.rest.length instruction

def dispatch (instruction : Instruction) : Decoding Unit :=
  let opcode := instruction.opcode
  match opcode.family with
  | .binary => binary opcode
  | .call1 => call opcode 1
  | .call2 => call opcode 2
  | .multiplyAdd => call opcode 3
  | .integerMultiplyAdd => integerMultiplyAdd
  | .dot => dot opcode
  | .wideMultiply => wideMultiply
  | .divide => divide
  | .sineCosine => sineCosine
  | .negate => negate
  | .move => move
  | .moveConditional => moveConditional
  | .swapConditional => swapConditional
  | .compare => compare opcode
  | .complement => complement
  | .logic => logic opcode
  | .shift => shift opcode
  | .bitCall => bitCall opcode
  | .bitExtract => bitExtract opcode
  | .bitInsert => bitInsert
  | .toHalf => toHalf
  | .fromHalf => fromHalf
  | .fromFloat => fromFloat opcode
  | .toFloat => toFloat
  | .ifMarker => ifMarker opcode
  | .elseMarker => elseMarker
  | .endIf => endBlock .branch
  | .loop => beginBlock "while (true)" .loop
  | .endLoop => endBlock .loop
  | .switch => switch
  | .caseLabel => caseLabel
  | .defaultLabel => label "default:"
  | .endSwitch => endSwitch
  | .breakOut => breakOut
  | .breakConditional => conditional opcode (return "break;")
  | .continueOn => emit "continue;"
  | .continueConditional => conditional opcode (return "continue;")
  | .leave => leave
  | .leaveConditional => conditional opcode returnStatement
  | .discard => conditional opcode (return "discard;")
  | .emitVertex => emitVertex opcode
  | .cutStrip => cutStrip opcode
  | .barrier => barrier instruction.mnemonic
  | .idle => do discard (readRawOperands opcode.arity)
  | .declareTemps => declareTemps
  | .declareIndexable => declareIndexable
  | .declareConstants => declareConstants
  | .declareThreadGroup => declareThreadGroup
  | .declareSharedRaw => declareSharedRaw
  | .declareSharedStructured => declareSharedStructured
  | .declareInput => declareInput
  | .declareVertexCount => do
    let count ← readInt
    modifyContext fun c => { c with maxVertexCount := some count }
  | .declarePrimitive => do
    let primitive ← readRawOperand
    modifyContext fun c => { c with inputPrimitive := some primitive }
  | .declareTopology => do
    let topology ← readRawOperand
    modifyContext fun c => { c with outputTopology := some topology }
  | .declareOther => modify fun d => { d with cursor := d.cursor.skipLine }
  | .sample => sample instruction
  | .load => load instruction
  | .loadMultisampled => load instruction
  | .resourceInfo => resourceInfo opcode
  | .levelOfDetail => levelOfDetail opcode
  | .gather => gather instruction
  | .loadRaw => loadRaw
  | .loadStructured => loadStructured
  | .loadTyped => loadTyped
  | .storeRaw => storeRaw
  | .storeStructured => storeStructured
  | .storeTyped => storeTyped
  | .atomic => atomic opcode
  | .atomicReturning => atomicReturning opcode
  | .atomicCounter => atomicCounter opcode

/-- Passes over a token that is no mnemonic. The first one of a line is reported. -/
def skipToken (token : Token) : Decoding Unit := do
  if (← get).skippedLine = some token.line then note (.tokenSkipped token.text token.line)
  else
    note (.unsupported token.text token.line)
    modify fun d => { d with skippedLine := some token.line }

def readInstruction : Decoding (Option Instruction) := do
  let token ← nextToken
  modify fun d => { d with line := some token.line }
  match Instruction.classify? token.text with
  | none =>
    skipToken token
    return none
  | some instruction =>
    let instruction ← readModifiers instruction
    modify fun d => { d with instruction := some instruction }
    return some instruction

def turn : Decoding Unit := do
  match ← readInstruction with
  | none => return
  | some instruction => dispatch instruction

end ShaderLift.Decoding
