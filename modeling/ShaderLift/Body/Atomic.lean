import ShaderLift.Body.Buffer

namespace ShaderLift.Decoding

open Operand

/-- The memory that an atomic operation works on: what stands in front of the function's name, and
its first argument. A buffer addressed in bytes is called as a method. -/
def atomicTarget (resource : ResourceOperand) (address : Text) : Decoding (Text × Text) := do
  match resource.sharedWords with
  | some words =>
    if words = 0 then
      let scalar := asInteger (← cast address (.first 1)) .unsigned
      return ([], elementAccess resource (← wordIndex scalar 0))
    else
      let index ← lane address 0 2
      let offset ← lane address 1 2
      let word ←
        if Text.allDigits offset then Text.ofInt <$> firstWord offset
        else pure (asInteger offset .unsigned ++ " >> 2")
      return ([], elementAccess resource (asInteger index .unsigned) ++ "[" ++ word ++ "]")
  | none =>
    if resource.entry.any ResourceEntry.isRaw then
      return (resource.name ++ ".", asInteger (← cast address (.first 1)) .unsigned)
    else if resource.entry.any ResourceEntry.isStructured then
      let index := asInteger (← lane address 0 2) .unsigned
      let offset ← lane address 1 2
      match ← memberAccess resource index offset [.x] with
      | some (access, _) => return ([], access)
      | none => return ([], elementAccess resource index)
    else
      let coordinate := asInteger (← cast address (.first (resource.dimension 1))) .unsigned
      return ([], elementAccess resource coordinate)

def atomicValues (opcode : Opcode) : Nat → Decoding (List Text)
  | 0 => return []
  | count + 1 => do
    let first := asInteger (← scalar (← readRawOperand)) (viewOf opcode)
    return first :: (← atomicValues opcode count)

def atomicCall (opcode : Opcode) (front : Text) (arguments : List Text) : Text :=
  front ++ opcode.symbol ++ "(" ++ Text.commaList arguments ++ ");"

def atomic (opcode : Opcode) : Decoding Unit := do
  let resource ← readResource
  let address ← resolve (← readRawOperand)
  let values ← atomicValues opcode (opcode.arity - 2)
  let (front, target) ← atomicTarget resource address
  emit (atomicCall opcode front (target :: values))

def foundName : Text := "original"

def inBraces (statements : Decoding Unit) : Decoding Unit := do
  emit "\x7b"
  modifyContext fun c => { c with depth := c.depth + 1 }
  statements
  modifyContext fun c => { c with depth := c.depth - 1 }
  emit "\x7d"

/-- An atomic operation that gives the value found in memory to a register, inside a block of its
own. -/
def atomicReturning (opcode : Opcode) : Decoding Unit := do
  let destination ← readDestination
  let resource ← readResource
  let address ← resolve (← readRawOperand)
  let values ← atomicValues opcode (opcode.arity - 3)
  let (front, target) ← atomicTarget resource address
  inBraces do
    emit ("uint " ++ foundName ++ ";")
    emit (atomicCall opcode front (target :: values ++ [foundName]))
    assign destination (asFloat foundName)

def atomicCounter (opcode : Opcode) : Decoding Unit := do
  let destination ← readDestination
  let resource ← readResource
  assign destination (asFloat (methodCall resource.name opcode.symbol []))

end ShaderLift.Decoding
