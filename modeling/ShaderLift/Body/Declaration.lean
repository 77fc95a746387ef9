import ShaderLift.Body.Operand

namespace ShaderLift.Decoding

open Operand

def declareAll (added : List Nat) : Decoding Unit :=
  modifyContext fun c =>
    { c with
      declaredTemps := c.declaredTemps ++ added
      statements := c.statements ++ added.map fun register =>
        .ofText c.depth.toNat ("float4 r" ++ Text.ofNat register ++ ";") }

/-- Declares the first temporary registers, as many as the operand says, each of them once. -/
def declareTemps : Decoding Unit := do
  let count ← readInt
  let declared := (← get).context.declaredTemps
  let added := (List.range count.toNat).filter fun register => !declared.contains register
  declareAll added
  if !added.isEmpty then emit ""

def declareIndexable : Decoding Unit := do
  let name ← readRawOperand
  let components ← readInt
  let type : Text := if components = 1 then "float" else "float" ++ Text.ofInt components
  emit (type ++ " " ++ name ++ ";")

/-- Reads the rows of an immediate constant buffer up to its closing brace, inside a row if one is
open: the rows or the fault met, and the place reached. -/
def rowsFrom (passed : List Token) (rows : List (List Text)) (row? : Option (List Text)) :
    List Token → Except Fault (List (List Text)) × Cursor
  | [] => (.error (.decode .endOfListing (passed.head?.map Token.line)), ⟨passed, []⟩)
  | token :: rest =>
    match row? with
    | none =>
      if token.text = "\x7d" then (.ok rows, ⟨token :: passed, rest⟩)
      else if token.text = "\x7b" then rowsFrom (token :: passed) rows (some []) rest
      else (.error (.decode (.strayConstant token.text) token.line), ⟨token :: passed, rest⟩)
    | some row =>
      if token.text = "\x7d" then rowsFrom (token :: passed) (rows ++ [row]) none rest
      else rowsFrom (token :: passed) rows (some (row ++ [token.text])) rest

/-- A value of an immediate constant buffer: bits unless it has a point or is zero. -/
def constantValue (value : Text) : Text :=
  if value.contains '.' || value = "0" || value = "-0" then value else "asfloat(" ++ value ++ ")"

def constantsDeclaration (indent : Text) (rows : List (List Text)) : Text :=
  let elements := rows.map fun row =>
    indent ++ "float4(" ++ Text.commaList (row.map constantValue) ++ ")"
  "static const float4 icb[" ++ Text.ofNat rows.length ++ "] =\n\x7b\n" ++
    Text.join ",\n" elements ++ "\n\x7d;"

def declareConstants : Decoding Unit := do
  if !(← get).cursor.isAt "\x7b" then fail .constantsWithoutBrace
  discard nextToken
  let cursor := (← get).cursor
  let (rows, cursor) := rowsFrom cursor.passed [] none cursor.rest
  setCursor cursor
  let declaration := constantsDeclaration (← read).config.indent (← rows)
  modifyContext fun c => { c with globalDeclarations := c.globalDeclarations ++ [declaration] }

def declareThreadGroup : Decoding Unit := do
  let x ← readInt
  let y ← readInt
  let z ← readInt
  modifyContext fun c => { c with threadGroup := some (x, y, z) }

def shareMemory (name : Text) (words : Int) (declaration : Text) : Decoding Unit :=
  modifyContext fun c =>
    { c with
      sharedMemory := c.sharedMemory.put name words
      globalDeclarations := c.globalDeclarations ++ [declaration] }

def declareSharedRaw : Decoding Unit := do
  let name ← readRawOperand
  let size ← readInt
  shareMemory name 0 ("groupshared uint " ++ name ++ "[" ++ Text.ofInt (size.fdiv 4) ++ "];")

def declareSharedStructured : Decoding Unit := do
  let name ← readRawOperand
  let stride ← readInt
  let count ← readInt
  let words := stride.fdiv 4
  shareMemory name words
    ("groupshared uint " ++ name ++ "[" ++ Text.ofInt count ++ "][" ++ Text.ofInt words ++ "];")

def declareInput : Decoding Unit := do
  let (base, _) := splitSelector (← readRawOperand)
  match Parameter.builtIn.get? base with
  | none => return
  | some parameter =>
    if !(← get).context.parameters.any fun p => p.name = parameter.name then
      modifyContext fun c => { c with parameters := c.parameters ++ [parameter] }

end ShaderLift.Decoding
