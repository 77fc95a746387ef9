import ShaderLift.Proofs.Decoding.Accounts
import ShaderLift.Proofs.Saturation.Clamped
import ShaderLift.Proofs.Text.Words

namespace ShaderLift

namespace Instruction

variable {mnemonic : Text}

theorem classify?_clamp (unclamped : Text.endsWith "_sat" mnemonic = false) :
    classify? (mnemonic ++ "_sat") = (classify? mnemonic).map clamp := by
  have none : Text.before? "_sat" mnemonic = none := by simpa [Text.endsWith] using unclamped
  simp only [classify?, normalizeMnemonic, none, Text.before?_append, Option.getD_some,
    Option.getD_none, Option.map_map]
  rfl

theorem saturate_classify? {instruction : Instruction}
    (unclamped : Text.endsWith "_sat" mnemonic = false)
    (classified : classify? mnemonic = some instruction) : instruction.saturate = false := by
  obtain ⟨opcode, _, rfl⟩ := Option.map_eq_some_iff.mp classified
  exact unclamped

end Instruction

namespace Decoding

variable {instruction : Instruction} {line : Option Int}

/-- What stands behind some of the groups that a line goes on with. -/
inductive BehindGroups (line : Option Int) : List Token → List Token → Prop
  | refl (rest : List Token) : BehindGroups line rest rest
  | group {opening closing : Token} {inside rest after : List Token} (opens : opening.text = "(")
      (plain : ∀ token ∈ inside, token.text ≠ ")") (closes : closing.text = ")")
      (aligned : OnLine line (opening :: (inside ++ [closing])))
      (later : BehindGroups line rest after) :
      BehindGroups line (opening :: (inside ++ closing :: rest)) after

/-- No suffix follows on the line, neither at once nor behind groups. -/
def Unsuffixed (line : Option Int) (rest : List Token) : Prop :=
  ∀ after, BehindGroups line rest after →
    ∀ token ∈ after.head?, line = some token.line → token.text.head? ≠ some '_'

theorem BehindGroups.subset {rest after : List Token} (behind : BehindGroups line rest after) :
    after ⊆ rest := by
  induction behind with
  | refl rest => exact List.Subset.refl rest
  | group opens plain closes aligned later ih =>
    intro token inside
    simp [ih inside]

theorem unsuffixed_of_forall {rest : List Token}
    (plain : ∀ token ∈ rest, token.text.head? ≠ some '_') : Unsuffixed line rest :=
  fun _ behind token inside _ => plain token (behind.subset (List.mem_of_head? inside))

/-- Groups of modifiers neither read nor change the mnemonic and the saturation. -/
theorem applyStrides_apart (mnemonic : Text) (saturate : Bool) (values : List Text)
    (instruction : Instruction) :
    applyStrides { instruction with mnemonic, saturate } values =
      (applyStrides instruction values).map fun applied =>
        { applied with mnemonic, saturate } := by
  induction values generalizing instruction with
  | nil => rfl
  | cons value rest ih =>
    unfold applyStrides
    split
    · exact ih instruction
    · rename_i digits _
      cases Fault.readInteger digits with
      | error fault => rfl
      | ok stride => exact ih { instruction with stride }

@[inherit_doc applyStrides_apart]
theorem applyGroup_apart (mnemonic : Text) (saturate : Bool) (values : List Text)
    (instruction : Instruction) :
    applyGroup { instruction with mnemonic, saturate } values =
      (applyGroup instruction values).map fun applied => { applied with mnemonic, saturate } := by
  unfold applyGroup
  split
  · rfl
  · split
    · cases List.mapM Fault.readInteger _ with
      | error fault => rfl
      | ok offsets => rfl
    · rename_i first _ _
      dsimp only
      split
      · exact applyStrides_apart mnemonic saturate _
          { instruction with resourceType := Text.lower first }
      · exact applyStrides_apart mnemonic saturate _ instruction

theorem applyGroup_clamp (unclamped : instruction.saturate = false) (values : List Text) :
    applyGroup instruction.clamp values = (applyGroup instruction values).map Instruction.clamp ∧
      ∀ applied, applyGroup instruction values = .ok applied → applied.saturate = false := by
  have kept := applyGroup_apart instruction.mnemonic instruction.saturate values instruction
  have clamped := applyGroup_apart (instruction.mnemonic ++ "_sat") true values instruction
  cases takes : applyGroup instruction values with
  | error fault =>
    rw [takes] at clamped
    exact ⟨clamped, by simp⟩
  | ok applied =>
    rw [takes] at kept clamped
    have same : applied =
        { applied with mnemonic := instruction.mnemonic, saturate := instruction.saturate } :=
      Except.ok.inj kept
    constructor
    · rw [same]
      exact clamped
    · rintro _ ⟨⟩
      rw [same]
      exact unclamped

/-- Without a suffix, modifiers do not depend on the saturation. -/
theorem modified_clamp : Modified Instruction.clamp (fun instruction => instruction.saturate = false)
    fun d => Unsuffixed d.line d.cursor.rest where
  applied := applyGroup_clamp
  group unsuffixed ahead opens here read behind groups := by
    obtain ⟨inside, closing, after, split, rfl, closes, plain, aligned, _⟩ :=
      groupFrom_some _ _ _ _ _ _ read
    refine unsuffixed behind ?_
    rw [ahead, split]
    exact .group opens plain closes (.cons here aligned) groups
  suffix unsuffixed _ ahead marked here :=
    absurd marked (unsuffixed _ (.refl _) _ (by rw [ahead]; rfl) here)

variable {fork : Fork} {env : Environment} {d d' : Decoder} {rest : List Token}

theorem barrierName_clamp (mnemonic : Text) :
    barrierName (barrierFlags (mnemonic ++ "_sat")) = barrierName (barrierFlags mnemonic) := by
  have split : Text.pieces '_' (mnemonic ++ "_sat") =
      Text.pieces '_' mnemonic ++ [("sat" : Text)] :=
    Text.pieces_append '_' mnemonic "sat"
  have flags : barrierFlags (mnemonic ++ "_sat") = barrierFlags mnemonic ++ [("sat" : Text)] := by
    rw [barrierFlags, split, List.drop_append_of_le_length
      (List.length_pos_iff.mpr (Text.pieces_ne_nil _ _)), barrierFlags]
  -- The added flag is none of those that are asked for.
  have kept (word : Text) (other : word ≠ "sat") :
      (barrierFlags mnemonic ++ [("sat" : Text)]).contains word =
        (barrierFlags mnemonic).contains word := by
    rw [Bool.eq_iff_iff, List.contains_iff_mem, List.contains_iff_mem, List.mem_append,
      List.mem_singleton, or_iff_left other]
  simp only [barrierName, flags, kept "uglobal" (by decide), kept "g" (by decide),
    kept "ugroup" (by decide), kept "t" (by decide)]

/-- Decoding an instruction does not depend on its saturation but where values are assigned. -/
theorem dispatch_clamp (instruction : Instruction) :
    dispatch instruction.clamp = dispatch instruction := by
  obtain ⟨mnemonic, ⟨family, arity, kind, symbol, width⟩, saturate, offsets, type, stride⟩ :=
    instruction
  cases family with
  | barrier =>
    show Decoding.barrier (mnemonic ++ "_sat") = Decoding.barrier mnemonic
    rw [Decoding.barrier, barrierName_clamp, Decoding.barrier]
  | _ => rfl

theorem declareConstants_joined (joined : fork.Joined d d') :
    fork.anonymous.Ends Eq fork.Joined (runOn declareConstants env d)
      (runOn declareConstants env d') := by
  have level := joined.place.isAt "\x7b"
  cases opens : d.cursor.isAt "\x7b" with
  | false =>
    rw [runOn_declareConstants_other env d opens,
      runOn_declareConstants_other env d' (level.trans opens)]
    exact .error (by rw [joined.line]) joined
  | true =>
    obtain ⟨brace, rest, ahead, opens⟩ := (isAt_iff _ _).mp opens
    obtain ⟨same, place⟩ := Fork.rowsFrom_beside (joined.place.passed.token brace) [] none rest
    rw [runOn_declareConstants_brace env d brace rest ahead opens,
      runOn_declareConstants_brace env d' brace rest (joined.place.rest.trans ahead) opens]
    generalize rowsFrom (brace :: d.cursor.passed) [] none rest = run at same place ⊢
    generalize rowsFrom (brace :: d'.cursor.passed) [] none rest = run' at same place ⊢
    obtain ⟨rows, cursor⟩ := run
    obtain ⟨_, cursor'⟩ := run'
    cases same
    have moved := joined.move place
    cases rows with
    | error fault => exact .error rfl moved
    | ok rows =>
      have declares : Context.Adds fun c => { c with globalDeclarations :=
          c.globalDeclarations ++ [constantsDeclaration env.config.indent rows] } :=
        .nothing fun _ _ => rfl
      exact .ok rfl (moved.change (joined.context.modify declares))

theorem dispatch_joined (instruction : Instruction) (work : fork.AtWork d d') :
    fork.anonymous.Ends Eq fork.Joined (runOn (dispatch instruction) env d)
      (runOn (dispatch instruction) env d') := by
  rcases Composed.dispatch_cases env.symbols instruction False.elim False.elim with
    composed | ⟨_, constants⟩ | skips
  · exact (Fork.AtWork.lockstep.ofComposed composed d d' work).imp (fun _ _ => id) fun _ _ work =>
      work.toJoined
  · rw [constants]
    exact declareConstants_joined work.toJoined
  · rw [skips]
    exact .ok rfl (work.toJoined.move work.place.skipLine)

theorem runOn_turn_within (env : Environment) (d : Decoder) (mnemonic : Token) (rest : List Token)
    (ahead : d.cursor.rest = mnemonic :: rest)
    (classified : Instruction.classify? mnemonic.text = some instruction) :
    runOn turn env d =
      match runOn (readModifiersWithin rest.length instruction) env
        (atMnemonic d mnemonic rest) with
      | (.error fault, reached) => (.error fault, reached)
      | (.ok result, reached) =>
        runOn (dispatch result) env { reached with instruction := some result } := by
  have start : runOn (readModifiers instruction) env (atMnemonic d mnemonic rest) =
      runOn (readModifiersWithin rest.length instruction) env (atMnemonic d mnemonic rest) := rfl
  rw [turn, runOn_bind, runOn_readInstruction env d mnemonic rest ahead, classified]
  dsimp only
  rw [runOn_bind, start]
  rcases runOn (readModifiersWithin rest.length instruction) env (atMnemonic d mnemonic rest) with
    ⟨fault | result, reached⟩
  · rfl
  · rfl

theorem turn_joined (env : Environment) (ahead : d.cursor.rest = fork.plain :: rest)
    (ahead' : d'.cursor.rest = fork.clamped :: rest)
    (classified : Instruction.classify? fork.plain.text = some instruction)
    (unclamped : instruction.saturate = false)
    (classified' : Instruction.classify? fork.clamped.text = some instruction.clamp)
    (start : fork.Joined (atMnemonic d fork.plain rest) (atMnemonic d' fork.clamped rest))
    (unsuffixed : Unsuffixed (some fork.plain.line) rest) :
    fork.anonymous.Ends Eq fork.Joined (runOn turn env d) (runOn turn env d') := by
  have read : fork.anonymous.Ends _ fork.Joined
      (runOn (readModifiersWithin rest.length instruction) env (atMnemonic d fork.plain rest)) _ :=
    Fork.Joined.inStep.readModifiersWithin modified_clamp _ rest.length start unsuffixed unclamped
      (Nat.le_refl _) (Nat.le_refl _)
  rw [runOn_turn_within env d fork.plain rest ahead classified,
    runOn_turn_within env d' fork.clamped rest ahead' classified']
  generalize runOn _ env (atMnemonic d fork.plain rest) = run at read ⊢
  generalize runOn _ env (atMnemonic d' fork.clamped rest) = run' at read ⊢
  cases read with
  | error same joined => exact .error same joined
  | @ok result _ d d' same joined =>
    obtain ⟨unclamped, rfl⟩ := same
    dsimp only
    rw [dispatch_clamp]
    refine dispatch_joined result ⟨?_, result, unclamped, rfl, rfl⟩
    exact ⟨joined.place, joined.context, joined.line, joined.skippedLine, joined.log⟩

theorem Fork.outcomes {α : Type} {run run' : Except Fault α × Decoder}
    (ends : fork.anonymous.Ends Eq fork.Joined run run') :
    run'.1.mapError Fault.anonymous = run.1.mapError Fault.anonymous ∧
      fork.Joined run.2 run'.2 := by
  cases ends with
  | ok same joined =>
    cases same
    exact ⟨rfl, joined⟩
  | error same joined => exact ⟨congrArg Except.error same, joined⟩

/-- What lies between two places, if the tokens behind the second one start with those behind the
first. -/
theorem rest_of_takes {start reached : Cursor} {count : Nat} (takes : start.Takes count reached)
    {taken : List Token} (passed : reached.passed = taken ++ start.passed) :
    start.rest = taken.reverse ++ reached.rest := by
  have whole := takes.tokens_eq
  rw [Cursor.tokens, Cursor.tokens, passed, List.reverse_append, List.append_assoc] at whole
  exact (List.append_cancel_left whole).symm

/-- An instruction with saturation takes the tokens that it takes without, fails exactly where it
fails without, and leads to the same context but for the values that it assigns. These are
clamped. -/
theorem turn_saturates (env : Environment) (d : Decoder) (mnemonic : Text) (line : Int)
    (rest : List Token) (known : (Instruction.classify? mnemonic).isSome = true)
    (unclamped : Text.endsWith "_sat" mnemonic = false)
    (ahead : d.cursor.rest = ⟨mnemonic, line⟩ :: rest) (unsuffixed : Unsuffixed (some line) rest) :
    ∃ outcome outcome' reached reached' taken added,
      runOn turn env d = (outcome, reached) ∧
      runOn turn env
        { d with cursor := ⟨d.cursor.passed, ⟨mnemonic ++ "_sat", line⟩ :: rest⟩ } =
          (outcome', reached') ∧
      outcome'.mapError Fault.anonymous = outcome.mapError Fault.anonymous ∧
      rest = taken ++ reached.cursor.rest ∧
      reached.cursor.passed = taken.reverse ++ ⟨mnemonic, line⟩ :: d.cursor.passed ∧
      reached'.cursor = ⟨taken.reverse ++ ⟨mnemonic ++ "_sat", line⟩ :: d.cursor.passed,
        reached.cursor.rest⟩ ∧
      reached.context.statements = d.context.statements ++ added ∧
      reached'.context = { reached.context with
        statements := d.context.statements ++ added.map Statement.clamp } ∧
      (∀ s ∈ added, s.isAssignment = true → ∃ target value,
        s.body = target ++ " = " ++ value ++ ";" ∧
        s.clamp.body = target ++ " = saturate(" ++ value ++ ");") ∧
      reached'.log.map Notice.anonymous = reached.log.map Notice.anonymous := by
  obtain ⟨instruction, classified⟩ := Option.isSome_iff_exists.mp known
  have clamps : Instruction.classify? (mnemonic ++ "_sat") = some instruction.clamp := by
    rw [Instruction.classify?_clamp unclamped, classified, Option.map_some]
  have plain := Instruction.saturate_classify? unclamped classified
  have takes := turn_takes env d ⟨mnemonic, line⟩ rest ahead
  let fork : Fork :=
    ⟨⟨mnemonic, line⟩, ⟨mnemonic ++ "_sat", line⟩, rfl, d.cursor.passed, d.context.statements⟩
  let d' : Decoder := { d with cursor := ⟨d.cursor.passed, fork.clamped :: rest⟩ }
  have start : fork.Joined (atMnemonic d fork.plain rest) (atMnemonic d' fork.clamped rest) := by
    refine ⟨⟨rfl, .mnemonic⟩, ⟨[], by simp, (List.append_nil _).symm, ?_⟩, rfl, rfl, rfl⟩
    rw [List.map_nil, List.append_nil]
    rfl
  have ends : fork.anonymous.Ends Eq fork.Joined (runOn turn env d) (runOn turn env d') :=
    turn_joined env ahead rfl classified plain clamps start unsuffixed
  obtain ⟨same, joined⟩ := Fork.outcomes ends
  generalize runOn turn env d = run at takes same joined ⊢
  generalize runOn turn env d' = run' at same joined ⊢
  obtain ⟨outcome, reached⟩ := run
  obtain ⟨outcome', ⟨⟨_, _⟩, _, _, _, _, _⟩⟩ := run'
  obtain ⟨taken, passed, rfl⟩ := joined.place.passed.exists_taken
  obtain ⟨added, assigns, own, other⟩ := joined.context
  obtain rfl := joined.place.rest
  refine ⟨outcome, outcome', reached, _, taken.reverse, added, rfl, rfl, same,
    rest_of_takes takes passed, ?_, ?_, own, other, assigns, joined.log⟩
  · rw [passed, List.reverse_reverse]
  · rw [List.reverse_reverse]

theorem exists_runOn {step : Decoding Unit} {holds : Decoder → Prop}
    (completed : (runOn step env d).1.isOk = true ∧ holds (runOn step env d).2) :
    ∃ after, runOn step env d = (.ok (), after) ∧ holds after :=
  ⟨_, runOn_of_isOk _ _ _ completed.1, completed.2⟩

/-- A load with a group behind its mnemonic. -/
theorem turn_saturates_load :
    let operands : List Token := [⟨"(", 1⟩, ⟨"texture2d", 1⟩, ⟨")", 1⟩, ⟨"r0.xy", 1⟩,
      ⟨"r1.xyzw", 1⟩, ⟨"t0.yxzw", 1⟩]
    let before (mnemonic : Text) : Decoder := { cursor := ⟨[], ⟨mnemonic, 1⟩ :: operands⟩ }
    (∃ after, runOn turn {} (before "ld_indexable") = (.ok (), after) ∧
      after.context.statements.map Statement.body =
        (["r0.xy = t0.Load(asint(r1.xyz)).yx;"] : List Text)) ∧
    ∃ after, runOn turn {} (before "ld_indexable_sat") = (.ok (), after) ∧
      after.cursor.rest = [] ∧
      after.context.statements.map Statement.body =
        (["r0.xy = saturate(t0.Load(asint(r1.xyz)).yx);"] : List Text) := by
  intro operands before
  obtain ⟨after, run, ended, made⟩ : ∃ after, runOn turn {} (before "ld_indexable") =
      (.ok (), after) ∧ after.cursor.rest = [] ∧ after.context.statements =
        [.assign 0 "r0.xy" "t0.Load(asint(r1.xyz)).yx" false] :=
    exists_runOn (by decide +kernel)
  obtain ⟨outcome, outcome', reached, reached', taken, added, run', clamped, same, _, _, place, own,
      context, _⟩ :=
    turn_saturates {} (before "ld_indexable") "ld_indexable" 1 operands (by decide +kernel)
      (by decide) rfl (unsuffixed_of_forall (by decide))
  cases run.symm.trans run'
  have single : added = [.assign 0 "r0.xy" "t0.Load(asint(r1.xyz)).yx" false] :=
    own.symm.trans made
  refine ⟨⟨after, run, by rw [made]; rfl⟩, reached', ?_, ?_, ?_⟩
  · cases outcome' with
    | error fault => cases same
    | ok value => exact clamped
  · rw [place]
    exact ended
  · rw [context, single]
    rfl

end Decoding
end ShaderLift
