import ShaderLift.Body.Turn

namespace ShaderLift

structure TurnRecord where
  line : Option Int
  depth : Int
  blocks : List Block
  added : List Statement

structure Run where
  turns : List TurnRecord
  outcome : Except Fault Unit
  final : Decoder

namespace Decoding

def runOn {α : Type} (step : Decoding α) (environment : Environment) (d : Decoder) :
    Except Fault α × Decoder :=
  step environment d

def recordOf (before after : Decoder) : TurnRecord :=
  { line := after.line, depth := after.context.depth, blocks := after.context.blocks
    added := after.context.statements.drop before.context.statements.length }

/-- Takes turns to the last token, at most as many as the bound. -/
def turnsWithin (environment : Environment) : Nat → Decoder → Run
  | 0, d => ⟨[], .ok (), d⟩
  | bound + 1, d =>
    if d.cursor.atEnd then ⟨[], .ok (), d⟩
    else
      match runOn turn environment d with
      | (.error fault, reached) => ⟨[], .error fault, reached⟩
      | (.ok (), reached) =>
        let rest := turnsWithin environment bound reached
        { rest with turns := recordOf d reached :: rest.turns }

/-- Takes turns to the last token. Each takes a token at least, so there are no more of them than
tokens left. -/
def turns (environment : Environment) (d : Decoder) : Run :=
  turnsWithin environment d.cursor.rest.length d

def stageFrom (passed : List Token) : List Token → Option (Stage × Token) × Cursor
  | [] => (none, ⟨passed, []⟩)
  | token :: rest =>
    match Stage.ofTag? token.text with
    | some stage => (some (stage, token), ⟨token :: passed, rest⟩)
    | none => stageFrom (token :: passed) rest

def findStage : Decoding Unit := do
  let cursor := (← get).cursor
  let (found, cursor) := stageFrom cursor.passed cursor.rest
  setCursor cursor
  match found with
  | none => throw .missingStage
  | some (stage, token) =>
    modifyContext fun c => { c with stage := some stage }
    note (.stageFound token.text token.line)

def finish : Decoding Unit := do
  let c := (← get).context
  if c.depth ≠ 0 || !c.blocks.isEmpty then unbalanced (.openAtEnd c.depth c.blocks.length)
  note (.decoded (← get).context.statements.length)

end Decoding

def decodeBody (environment : Environment) (listing : Text) : Run :=
  let start : Decoder := { cursor := .ofText listing }
  match Decoding.runOn Decoding.findStage environment start with
  | (.error fault, reached) => ⟨[], .error fault, reached⟩
  | (.ok (), reached) =>
    let run := Decoding.turns environment reached
    match run.outcome with
    | .error _ => run
    | .ok () =>
      let (outcome, final) := Decoding.runOn Decoding.finish environment run.final
      { run with outcome, final }

end ShaderLift
