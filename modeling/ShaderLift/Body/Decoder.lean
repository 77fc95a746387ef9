import ShaderLift.Body.Context
import ShaderLift.Instruction.Mnemonic
import ShaderLift.Register.Cast
import ShaderLift.Token.Cursor

namespace ShaderLift

structure Environment where
  symbols : Symbols := {}
  config : Config := {}

structure Decoder where
  cursor : Cursor := {}
  context : Context := {}
  instruction : Option Instruction := none
  line : Option Int := none
  /-- The line on which a token was last reported as unsupported. -/
  skippedLine : Option Int := none
  log : Log := []

/-- Decoding keeps the state it has reached when it fails. -/
abbrev Decoding := ReaderT Environment (ExceptT Fault (StateM Decoder))

namespace Decoding

def registers : Decoding Registers := return (← read).symbols.registers

def note (notice : Notice) : Decoding Unit :=
  modify fun d => { d with log := d.log ++ [notice] }

def modifyContext (change : Context → Context) : Decoding Unit :=
  modify fun d => { d with context := change d.context }

def setCursor (cursor : Cursor) : Decoding Unit := modify fun d => { d with cursor }

def fail {α : Type} (cause : DecodeFault) : Decoding α := do
  throw (.decode cause (← get).line)

def nextToken : Decoding Token := do
  let (token, cursor) ← (← get).cursor.next
  setCursor cursor
  return token

def isOnLine (line : Option Int) (token : Token) : Bool := line == some token.line

def peekOnLine : Decoding (Option Token) := do
  let d ← get
  return d.cursor.head?.filter (isOnLine d.line)

def emit (text : Text) : Decoding Unit :=
  modifyContext fun c =>
    { c with statements := c.statements ++ [.ofText c.depth.toNat text] }

/-- Adds an assignment, clamped if the instruction asks for it. -/
def emitAssignment (target value : Text) : Decoding Unit :=
  modify fun d =>
    let saturate := (d.instruction.map Instruction.saturate).getD false
    let added := Statement.assign d.context.depth.toNat target value saturate
    { d with context := { d.context with statements := d.context.statements ++ [added] } }

/-- Reports blocks that do not pair up, or refuses them when nesting is strict. -/
def unbalanced (cause : Imbalance) : Decoding Unit := do
  let line := (← get).line
  if (← read).config.strict then throw (.imbalance cause line)
  note (.imbalance cause line)

def openBlock (block : Block) : Decoding Unit :=
  modifyContext fun c => { c with blocks := block :: c.blocks, depth := c.depth + 1 }

def closeBlock (expected : Block) : Decoding Unit := do
  let d ← get
  if d.context.blocks.head? ≠ some expected then
    let marker := (d.instruction.map Instruction.mnemonic).getD expected.name
    unbalanced (.unmatchedClose marker expected)
  modifyContext fun c => { c with blocks := c.blocks.tail, depth := c.depth - 1 }

def returnStatement : Decoding Text := do
  let c := (← get).context
  let fields := (← registers).outputs.fields
  if c.stage = some .compute || c.hasOutputStream || fields.isEmpty then return "return;"
  return "return output;"

end Decoding
end ShaderLift
