import ShaderLift.Body.Operand

namespace ShaderLift.Decoding

open Operand

def condition (opcode : Opcode) : Decoding Text := do
  let value ← resolve (← readRawOperand)
  return value ++ " " ++ opcode.symbol ++ " 0"

def topBlock : Decoding (Option Block) := return (← get).context.blocks.head?

def beginBlock (head : Text) (block : Block) : Decoding Unit := do
  emit head
  emit "\x7b"
  openBlock block

def endBlock (block : Block) : Decoding Unit := do
  closeBlock block
  emit "\x7d"

def ifMarker (opcode : Opcode) : Decoding Unit := do
  beginBlock ("if (" ++ (← condition opcode) ++ ")") .branch

def elseMarker : Decoding Unit := do
  if (← topBlock) ≠ some .branch then unbalanced .strayElse
  else
    modifyContext fun c => { c with depth := c.depth - 1 }
    emit "\x7d"
    emit "else"
    emit "\x7b"
    modifyContext fun c => { c with depth := c.depth + 1 }

def switch : Decoding Unit := do
  let value ← resolve (← readRawOperand)
  beginBlock ("switch (" ++ asInteger value .signed ++ ")") .select

def leaveLabel : Decoding Unit := do
  if (← topBlock) = some .label then closeBlock .label

/-- A label; the one before it, if still open, falls through. -/
def label (text : Text) : Decoding Unit := do
  leaveLabel
  emit text
  openBlock .label

def caseLabel : Decoding Unit := do
  label ("case " ++ (← readRawOperand) ++ ":")

def endSwitch : Decoding Unit := do
  leaveLabel
  endBlock .select

def breakOut : Decoding Unit := do
  emit "break;"
  leaveLabel

def conditional (opcode : Opcode) (statement : Decoding Text) : Decoding Unit := do
  let test ← condition opcode
  emit ("if (" ++ test ++ ") " ++ (← statement))

/-- The end of the shader, which needs a statement only inside a block. -/
def leave : Decoding Unit := do
  if 0 < (← get).context.depth then
    emit (← returnStatement)
    leaveLabel

def barrierFlags (mnemonic : Text) : List Text := (Text.pieces '_' mnemonic).drop 1

def barrierName (flags : List Text) : Text :=
  let device := flags.contains "uglobal"
  let group := flags.contains "g" || flags.contains "ugroup"
  let scope : Text :=
    if device && group then "AllMemoryBarrier"
    else if device then "DeviceMemoryBarrier"
    else "GroupMemoryBarrier"
  if flags.contains "t" then scope ++ "WithGroupSync" else scope

def barrier (mnemonic : Text) : Decoding Unit :=
  emit (barrierName (barrierFlags mnemonic) ++ "();")

def streamName : Text := "outputStream"

def emitVertex (opcode : Opcode) : Decoding Unit := do
  discard (readRawOperands opcode.arity)
  modifyContext fun c => { c with emitsVertices := true }
  emit (streamName ++ ".Append(output);")

def cutStrip (opcode : Opcode) : Decoding Unit := do
  discard (readRawOperands opcode.arity)
  emit (streamName ++ ".RestartStrip();")

end ShaderLift.Decoding
