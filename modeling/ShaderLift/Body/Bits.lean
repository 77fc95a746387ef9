import ShaderLift.Body.Operand

namespace ShaderLift.Decoding

open Operand

def viewOf (opcode : Opcode) : IntegerView := if opcode.kind = .int then .signed else .unsigned

def asFloat (expression : Text) : Text := "asfloat(" ++ expression ++ ")"

def complement : Decoding Unit := do
  let destination ← readDestination
  let a ← readSource destination.shape
  assign destination (asFloat ("~" ++ asInteger a .unsigned))

def logic (opcode : Opcode) : Decoding Unit := do
  let destination ← readDestination
  let a ← readSource destination.shape
  let b ← readSource destination.shape
  assign destination <|
    asFloat (asInteger a .unsigned ++ " " ++ opcode.symbol ++ " " ++ asInteger b .unsigned)

def shift (opcode : Opcode) : Decoding Unit := do
  let destination ← readDestination
  let a ← readSource destination.shape
  let b ← readSource destination.shape
  assign destination <|
    asFloat (asInteger a (viewOf opcode) ++ " " ++ opcode.symbol ++ " " ++ asInteger b .unsigned)

def bitCall (opcode : Opcode) : Decoding Unit := do
  let destination ← readDestination
  let a ← readSource destination.shape
  assign destination (asFloat (opcode.symbol ++ "(" ++ asInteger a (viewOf opcode) ++ ")"))

/-- Extraction of a bit field, with sign extension when the view is signed. -/
def bitExtract (opcode : Opcode) : Decoding Unit := do
  let destination ← readDestination
  let width ← readSource destination.shape
  let offset ← readSource destination.shape
  let source ← readSource destination.shape
  let width := asInteger width .unsigned
  let offset := asInteger offset .unsigned
  let extracted :=
    if opcode.kind = .int then
      "(" ++ asInteger source .signed ++ " << (32 - " ++ width ++ " - " ++ offset ++ ")) >> (32 - " ++
        width ++ ")"
    else
      "(" ++ asInteger source .unsigned ++ " >> " ++ offset ++ ") & ((1u << " ++ width ++ ") - 1)"
  assign destination (asFloat extracted)

def bitInsert : Decoding Unit := do
  let destination ← readDestination
  let width ← readSource destination.shape
  let offset ← readSource destination.shape
  let inserted ← readSource destination.shape
  let base ← readSource destination.shape
  let width := asInteger width .unsigned
  let offset := asInteger offset .unsigned
  let mask := "(((1u << " ++ width ++ ") - 1) << " ++ offset ++ ")"
  assign destination <|
    asFloat ("((" ++ asInteger inserted .unsigned ++ " << " ++ offset ++ ") & " ++ mask ++ ") | (" ++
      asInteger base .unsigned ++ " & ~" ++ mask ++ ")")

def toHalf : Decoding Unit := do
  let destination ← readDestination
  let a ← readSource destination.shape
  assign destination (asFloat ("f32tof16(" ++ a ++ ")"))

def fromHalf : Decoding Unit := do
  let destination ← readDestination
  let a ← readSource destination.shape
  assign destination ("f16tof32(" ++ asInteger a .unsigned ++ ")")

/-- Conversion to an integer; a literal without points is one already. -/
def fromFloat (opcode : Opcode) : Decoding Unit := do
  let destination ← readDestination
  let a ← readSource destination.shape
  let isInteger := (literal? a).any fun literal => !literal.hasPoint
  assign destination (if isInteger then a else opcode.symbol ++ "(" ++ a ++ ")")

/-- Conversion from an integer; a literal with points needs none. -/
def toFloat : Decoding Unit := do
  let destination ← readDestination
  let a ← readSource destination.shape
  let isFloat := (literal? a).any Literal.hasPoint
  assign destination (if isFloat then a else asFloat a)

end ShaderLift.Decoding
