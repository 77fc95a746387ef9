import ShaderLift.Body.Operand

namespace ShaderLift.Decoding

/-- An operator between two sources; adding a negated source is written as a difference. -/
def binary (opcode : Opcode) : Decoding Unit := do
  let destination ← readDestination
  let a ← readSource destination.shape
  let b ← readSource destination.shape
  match opcode.symbol, b with
  | ['+'], '-' :: subtracted => assign destination (a ++ " - " ++ subtracted)
  | symbol, b => assign destination (a ++ " " ++ symbol ++ " " ++ b)

def call (opcode : Opcode) (sources : Nat) : Decoding Unit := do
  let destination ← readDestination
  let arguments ← readSources destination.shape sources
  assign destination (opcode.symbol ++ "(" ++ Text.commaList arguments ++ ")")

def integerMultiplyAdd : Decoding Unit := do
  let destination ← readDestination
  let a ← readSource destination.shape
  let b ← readSource destination.shape
  let c ← readSource destination.shape
  assign destination (a ++ " * " ++ b ++ " + " ++ c)

def dot (opcode : Opcode) : Decoding Unit := do
  let destination ← readDestination
  let a ← readSource (.first opcode.width)
  let b ← readSource (.first opcode.width)
  assign destination ("dot(" ++ a ++ ", " ++ b ++ ")")

/-- A multiplication with a high and a low half, of which only the low one is kept. -/
def wideMultiply : Decoding Unit := do
  let high ← readDestination
  let low ← readDestination
  let shape := if low.isNull then high.shape else low.shape
  let a ← readSource shape
  let b ← readSource shape
  if !high.isNull then note (.highHalfDropped (← get).line)
  assign low (a ++ " * " ++ b)

def divide : Decoding Unit := do
  let quotient ← readDestination
  let remainder ← readDestination
  let shape := if quotient.isNull then remainder.shape else quotient.shape
  let a ← readSource shape
  let b ← readSource shape
  assign quotient ("(uint)" ++ a ++ " / (uint)" ++ b)
  assign remainder ("(uint)" ++ a ++ " % (uint)" ++ b)

def sineCosine : Decoding Unit := do
  let sine ← readDestination
  let cosine ← readDestination
  let source ← resolve (← readRawOperand)
  assign sine ("sin(" ++ (← cast source sine.shape) ++ ")")
  assign cosine ("cos(" ++ (← cast source cosine.shape) ++ ")")

def negate : Decoding Unit := do
  let destination ← readDestination
  let a ← readSource destination.shape
  assign destination (if a.head? = some '-' then "-(" ++ a ++ ")" else "-" ++ a)

def move : Decoding Unit := do
  let destination ← readDestination
  assign destination (← readSource destination.shape)

def choice (condition yes no : Text) : Text := "(" ++ condition ++ " != 0) ? " ++ yes ++ " : " ++ no

def moveConditional : Decoding Unit := do
  let destination ← readDestination
  let condition ← readSource destination.shape
  let a ← readSource destination.shape
  let b ← readSource destination.shape
  let count := destination.shape.count
  assignLanes destination (return choice condition a b) fun position => do
    let condition ← lane condition position count
    let a ← lane a position count
    let b ← lane b position count
    return choice condition a b

def swapConditional : Decoding Unit := do
  let first ← readDestination
  let second ← readDestination
  let condition ← resolve (← readRawOperand)
  let a ← resolve (← readRawOperand)
  let b ← resolve (← readRawOperand)
  let condition₀ ← cast condition first.shape
  let a₀ ← cast a first.shape
  let b₀ ← cast b first.shape
  let condition₁ ← cast condition second.shape
  let a₁ ← cast a second.shape
  let b₁ ← cast b second.shape
  assign first (choice condition₀ b₀ a₀)
  assign second (choice condition₁ a₁ b₁)

/-- A comparison, written as a choice between one and zero, lane by lane. -/
def compare (opcode : Opcode) : Decoding Unit := do
  let destination ← readDestination
  let a ← readSource destination.shape
  let b ← readSource destination.shape
  let count := destination.shape.count
  let outcomes : Text := if opcode.kind = .float then "1.0 : 0.0" else "1 : 0"
  let compared := fun (a b : Text) =>
    "(" ++ a ++ " " ++ opcode.symbol ++ " " ++ b ++ ") ? " ++ outcomes
  assignLanes destination (return compared a b) fun position => do
    let a ← lane a position count
    let b ← lane b position count
    return compared a b

end ShaderLift.Decoding
