import ShaderLift.Proofs.Strictness.Parallel

namespace ShaderLift.Decoding.RunsParallel

variable {env : Environment}

theorem closeBlock (expected : Block) : RunsParallel env (Decoding.closeBlock expected) := by
  refine .bind .get fun d => ?_
  dsimp only
  split
  · exact .bind (.unbalanced _) fun _ => .modifyContext _
  · exact .modifyContext _

theorem ofComposed {α : Type} {steady still : Prop} {phase : Phase} {count : Nat}
    {step : Decoding α} {kind : α → Prop}
    (composed : Composed (.of env.symbols steady still) phase count step kind) :
    RunsParallel env step := by
  induction composed with
  | pure _ => exact .pure _
  | seq composed _ _ first later =>
    have known : Composed (.of (env.nesting false).symbols steady still) _ _ _ _ := composed
    exact first.chain fun value returns => later value (known.kind_of_returns returns)
  | lookup looked =>
    intro d
    rw [looked (env.nesting true) d rfl, looked (env.nesting false) d rfl]
    exact .same _ d (.refl _)
  | fail cause => exact .fail cause
  | look _ _ later => exact .bind .get later
  | read steady _ later =>
    exact .read ((steady env true).trans (steady env false).symm) (later _ rfl)
  | note other _ _ later => exact .bind .get fun d => .bind (.note (other d)) fun _ => later
  | unbalanced _ cause => exact .unbalanced cause
  | closeBlock _ expected => exact .closeBlock expected
  | modifyContext => exact .modifyContext _
  | emitAssignment target value => exact .modify _ fun _ => rfl
  | readRawOperand => exact .readRawOperand

theorem declareConstants : RunsParallel env Decoding.declareConstants := by
  have declared : RunsParallel env (Functor.discard Decoding.nextToken >>= fun _ => do
      let cursor := (← MonadState.get).cursor
      let rows := rowsFrom cursor.passed [] none cursor.rest
      Decoding.setCursor rows.2
      let declaration := constantsDeclaration (← MonadReader.read).config.indent (← rows.1)
      Decoding.modifyContext fun c =>
        { c with globalDeclarations := c.globalDeclarations ++ [declaration] }) := by
    refine .bind (.discard .nextToken) fun _ => .bind .get fun d => .bind (.setCursor _) fun _ => ?_
    exact .read rfl (.bind (.lift _) fun _ => .modifyContext _)
  refine .bind .get fun d => ?_
  dsimp only
  split
  · exact .bind (.fail _) fun _ => declared
  · exact declared

theorem dispatch (instruction : Instruction) :
    RunsParallel env (Decoding.dispatch instruction) := by
  rcases Composed.dispatch_cases env.symbols instruction False.elim False.elim with
    composed | ⟨_, constants⟩ | skips
  · exact .ofComposed composed
  · rw [constants]
    exact .declareConstants
  · rw [skips]
    exact .modify _ fun _ => rfl

theorem readModifiersWithin (bound : Nat) (instruction : Instruction) :
    RunsParallel env (Decoding.readModifiersWithin bound instruction) := by
  induction bound generalizing instruction with
  | zero => exact .pure _
  | succ bound ih =>
    refine .bind .peekOnLine fun token? => ?_
    split
    · exact .pure _
    · split
      · exact .bind .readGroup fun _ => .bind (.lift _) fun _ => ih _
      · split
        · exact .bind (.discard .nextToken) fun _ => ih _
        · exact .pure _

theorem skipToken (token : Token) : RunsParallel env (Decoding.skipToken token) := by
  refine .bind .get fun d => ?_
  split
  · exact .note rfl
  · exact .bind (.note rfl) fun _ => .modify _ fun _ => rfl

theorem readInstruction : RunsParallel env Decoding.readInstruction := by
  refine .bind .nextToken fun token => .bind (.modify _ fun _ => rfl) fun _ => ?_
  split
  · exact .bind (.skipToken _) fun _ => .pure _
  · refine .bind (.bind .get fun d => .readModifiersWithin _ _) fun instruction => ?_
    exact .bind (.modify _ fun _ => rfl) fun _ => .pure _

theorem turn : RunsParallel env Decoding.turn := by
  refine .bind .readInstruction fun instruction? => ?_
  split
  · exact .pure _
  · exact .dispatch _

end ShaderLift.Decoding.RunsParallel
