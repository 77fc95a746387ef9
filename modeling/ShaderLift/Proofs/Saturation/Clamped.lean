import ShaderLift.Proofs.Decoding.Lockstep

namespace ShaderLift

/-- The cause without the mnemonic that it names. -/
def DecodeFault.anonymous : DecodeFault → DecodeFault
  | missingOperand _ => .missingOperand none
  | cause => cause

@[inherit_doc DecodeFault.anonymous]
def Imbalance.anonymous : Imbalance → Imbalance
  | unmatchedClose _ block => .unmatchedClose [] block
  | cause => cause

/-- The fault without the mnemonic that it names. -/
def Fault.anonymous : Fault → Fault
  | decode cause line => .decode cause.anonymous line
  | imbalance cause line => .imbalance cause.anonymous line
  | fault => fault

/-- The notice without the mnemonic that it names. -/
def Notice.anonymous : Notice → Notice
  | imbalance cause line => .imbalance cause.anonymous line
  | notice => notice

/-- The instruction with saturation. -/
def Instruction.clamp (instruction : Instruction) : Instruction :=
  { instruction with mnemonic := instruction.mnemonic ++ "_sat", saturate := true }

namespace Statement

/-- The statement with the value clamped, if it is an assignment. -/
def clamp : Statement → Statement
  | assign depth target value _ => assign depth target value true
  | s => s

theorem clamp_of_other {s : Statement} (other : s.isAssignment = false) : s.clamp = s := by
  cases s with
  | assign depth target value saturate => cases other
  | blank => rfl
  | code depth text => rfl

/-- An assignment whose value is not clamped, or another statement. -/
def IsPlain (s : Statement) : Prop :=
  s.isAssignment = true → ∃ target value, s.body = target ++ " = " ++ value ++ ";" ∧
    s.clamp.body = target ++ " = saturate(" ++ value ++ ");"

theorem isPlain_assign (depth : Nat) (target value : Text) :
    (assign depth target value false).IsPlain :=
  fun _ => ⟨target, value, rfl, by simp [clamp, body]⟩

end Statement

namespace Decoding

/-- A mnemonic and the one with saturation in its place, with the tokens in front of them and the
statements made so far. -/
structure Fork where
  plain : Token
  clamped : Token
  aligned : clamped.line = plain.line
  earlier : List Token
  statements : List Statement

namespace Fork

variable {fork : Fork} {passed' : List Token} {cursor cursor' : Cursor}

/-- The tokens read in the two runs: the same ones behind the mnemonics. -/
inductive Behind (fork : Fork) : List Token → List Token → Prop
  | mnemonic : fork.Behind (fork.plain :: fork.earlier) (fork.clamped :: fork.earlier)
  | token {passed passed' : List Token} (next : Token) (front : fork.Behind passed passed') :
      fork.Behind (next :: passed) (next :: passed')

theorem Behind.last {passed : List Token} (behind : fork.Behind passed passed') :
    passed'.head?.map Token.line = passed.head?.map Token.line := by
  cases behind with
  | mnemonic => exact congrArg some fork.aligned
  | token next front => rfl

theorem Behind.exists_taken {passed : List Token} (behind : fork.Behind passed passed') :
    ∃ taken, passed = taken ++ fork.plain :: fork.earlier ∧
      passed' = taken ++ fork.clamped :: fork.earlier := by
  induction behind with
  | mnemonic => exact ⟨[], rfl, rfl⟩
  | token next _ ih =>
    obtain ⟨taken, rfl, rfl⟩ := ih
    exact ⟨next :: taken, rfl, rfl⟩

/-- Two places behind the same tokens and in front of the same tokens. -/
structure Beside (fork : Fork) (cursor cursor' : Cursor) : Prop where
  rest : cursor'.rest = cursor.rest
  passed : fork.Behind cursor.passed cursor'.passed

/-- The second run makes the statements of the first one with their values clamped, and nothing else
differs. -/
def Matches (fork : Fork) (c c' : Context) : Prop :=
  ∃ added, (∀ s ∈ added, s.IsPlain) ∧ c.statements = fork.statements ++ added ∧
    c' = { c with statements := fork.statements ++ added.map Statement.clamp }

/-- Two decoders in the middle of the two runs. -/
structure Joined (fork : Fork) (d d' : Decoder) : Prop where
  place : fork.Beside d.cursor d'.cursor
  context : fork.Matches d.context d'.context
  line : d'.line = d.line
  skippedLine : d'.skippedLine = d.skippedLine
  log : d'.log.map Notice.anonymous = d.log.map Notice.anonymous

/-- Two decoders at work on the instruction and on the one with saturation. -/
structure AtWork (fork : Fork) (d d' : Decoder) : Prop extends fork.Joined d d' where
  instruction : ∃ instruction : Instruction, instruction.saturate = false ∧
    d.instruction = some instruction ∧ d'.instruction = some instruction.clamp

/-- Two runs fail with the same fault, the mnemonic in it aside, in the middle of the two runs. -/
def anonymous (fork : Fork) : Comparison := ⟨Fault.anonymous, fork.Joined⟩

section Readers

variable {passed passed' : List Token} (behind : fork.Behind passed passed')

include behind

theorem rowsFrom_beside (rows : List (List Text)) (row? : Option (List Text)) (rest : List Token) :
    (rowsFrom passed' rows row? rest).1 = (rowsFrom passed rows row? rest).1 ∧
      fork.Beside (rowsFrom passed rows row? rest).2 (rowsFrom passed' rows row? rest).2 := by
  induction rest generalizing passed passed' rows row? with
  | nil =>
    rw [rowsFrom, rowsFrom, behind.last]
    exact ⟨rfl, rfl, behind⟩
  | cons token rest ih =>
    have onward := behind.token token
    cases row? with
    | none =>
      rw [rowsFrom, rowsFrom]
      split
      · exact ⟨rfl, rfl, onward⟩
      · split
        · exact ih onward _ _
        · exact ⟨rfl, rfl, onward⟩
    | some row =>
      rw [rowsFrom, rowsFrom]
      split
      · exact ih onward _ _
      · exact ih onward _ _

theorem passLine_beside (line : Int) (rest : List Token) :
    fork.Beside (Cursor.passLine line passed rest) (Cursor.passLine line passed' rest) := by
  induction rest generalizing passed passed' with
  | nil => exact ⟨rfl, behind⟩
  | cons token rest ih =>
    rw [Cursor.passLine, Cursor.passLine]
    split
    · exact ih (behind.token token)
    · exact ⟨rfl, behind⟩

end Readers

theorem Beside.skipLine (beside : fork.Beside cursor cursor') :
    fork.Beside cursor.skipLine cursor'.skipLine := by
  obtain ⟨passed, rest⟩ := cursor
  obtain ⟨passed', rest'⟩ := cursor'
  obtain ⟨rfl, behind⟩ := beside
  cases behind with
  | mnemonic =>
    rw [Cursor.skipLine, Cursor.skipLine]
    dsimp only
    rw [fork.aligned]
    exact passLine_beside .mnemonic _ _
  | token next front => exact passLine_beside (front.token next) _ _

theorem Beside.isAt (beside : fork.Beside cursor cursor') (text : Text) :
    cursor'.isAt text = cursor.isAt text := by
  rw [Cursor.isAt, Cursor.isAt, beside.rest]

namespace Matches

variable {c c' : Context}

theorem modify {change : Context → Context} (adds : Context.Adds change)
    (matched : fork.Matches c c') : fork.Matches (change c) (change c') := by
  obtain ⟨added, plain, own, rfl⟩ := matched
  obtain ⟨more, other, grown⟩ := adds c
  have same : more.map Statement.clamp = more :=
    (List.map_congr_left fun s inside => Statement.clamp_of_other (other s inside)).trans
      (List.map_id more)
  refine ⟨added ++ more, ?_, ?_, ?_⟩
  · rw [List.forall_mem_append]
    refine ⟨plain, fun s inside assigns => ?_⟩
    rw [other s inside] at assigns
    cases assigns
  · rw [← List.append_assoc, ← own]
    exact congrArg Context.statements (grown c.statements)
  · rw [List.map_append, same, ← List.append_assoc]
    exact grown _

theorem assign (target value : Text) (matched : fork.Matches c c') :
    fork.Matches
      { c with statements := c.statements ++ [.assign c.depth.toNat target value false] }
      { c' with statements := c'.statements ++ [.assign c'.depth.toNat target value true] } := by
  obtain ⟨added, plain, own, rfl⟩ := matched
  refine ⟨added ++ [.assign c.depth.toNat target value false], ?_, ?_, ?_⟩
  · rw [List.forall_mem_append, List.forall_mem_singleton]
    exact ⟨plain, Statement.isPlain_assign _ _ _⟩
  · rw [← List.append_assoc, ← own]
  · rw [List.map_append, ← List.append_assoc]
    rfl

theorem blocks (matched : fork.Matches c c') : c'.blocks = c.blocks := by
  obtain ⟨_, _, _, rfl⟩ := matched
  rfl

end Matches

namespace Joined

variable {d d' : Decoder}

/-- Both decoders at other places side by side. -/
theorem move (joined : fork.Joined d d') {cursor cursor' : Cursor}
    (place : fork.Beside cursor cursor') :
    fork.Joined { d with cursor } { d' with cursor := cursor' } :=
  ⟨place, joined.context, joined.line, joined.skippedLine, joined.log⟩

theorem note (joined : fork.Joined d d') {notice notice' : Notice}
    (same : notice'.anonymous = notice.anonymous) :
    fork.Joined { d with log := d.log ++ [notice] } { d' with log := d'.log ++ [notice'] } := by
  refine ⟨joined.place, joined.context, joined.line, joined.skippedLine, ?_⟩
  rw [List.map_append, List.map_append, joined.log, List.map_singleton, List.map_singleton, same]

theorem change (joined : fork.Joined d d') {context context' : Context}
    (matched : fork.Matches context context') :
    fork.Joined { d with context } { d' with context := context' } :=
  ⟨joined.place, matched, joined.line, joined.skippedLine, joined.log⟩

/-- The two decoders differ in no part of the context but the statements. -/
theorem resembling (joined : fork.Joined d d') : d.resembling d' = d' := by
  obtain ⟨_, _, _, other⟩ := joined.context
  rw [Decoder.resembling, other, ← other]

end Joined

/-- Two places side by side are in front of the same tokens. -/
theorem Beside.ahead {d d' : Decoder} {related : Decoder → Decoder → Prop}
    (place : fork.Beside d.cursor d'.cursor) (line : d'.line = d.line)
    (move : ∀ {cursor cursor' : Cursor}, fork.Beside cursor cursor' →
      related { d with cursor } { d' with cursor := cursor' }) : Ahead related d d' := by
  have ahead' := place.rest
  rcases ahead : d.cursor.rest with _ | ⟨token, rest⟩
  · rw [ahead] at ahead'
    exact .nothing (by simp [ahead]) (by simp [ahead']) (isAt_false (by simp [ahead]))
      (isAt_false (by simp [ahead']))
  · rw [ahead] at ahead'
    exact .token ahead ahead' rfl (by rw [line]) (move ⟨rfl, place.passed.token token⟩)

theorem Joined.inStep : InStep fork.anonymous fork.Joined where
  ahead joined := joined.place.ahead joined.line joined.move
  failed joined := joined
  decode joined _ := by rw [joined.line]
  missing joined := by
    rw [joined.line]
    rfl

namespace AtWork

variable {env : Environment} {d d' : Decoder}

theorem inStep : InStep fork.anonymous fork.AtWork where
  ahead work := work.place.ahead work.line fun place => ⟨work.toJoined.move place, work.instruction⟩
  failed work := work.toJoined
  decode work := Joined.inStep.decode work.toJoined
  missing work := Joined.inStep.missing work.toJoined

theorem unbalanced {cause cause' : Imbalance} (same : cause'.anonymous = cause.anonymous)
    (work : fork.AtWork d d') :
    fork.anonymous.Ends Eq fork.AtWork (runOn (Decoding.unbalanced cause) env d)
      (runOn (Decoding.unbalanced cause') env d') := by
  rw [runOn_unbalanced, runOn_unbalanced]
  split
  · refine .error ?_ work.toJoined
    simp only [anonymous, Fault.anonymous, same, work.line]
  · refine .ok rfl ⟨work.toJoined.note ?_, work.instruction⟩
    rw [Notice.anonymous, same, work.line, Notice.anonymous]

theorem modifyContext {change : Context → Context} (adds : Context.Adds change) :
    fork.anonymous.Runs env fork.AtWork (Decoding.modifyContext change) :=
  fun _ _ work => .ok rfl ⟨work.toJoined.change (work.context.modify adds), work.instruction⟩

theorem closeBlock (expected : Block) :
    fork.anonymous.Runs env fork.AtWork (Decoding.closeBlock expected) := by
  intro d d' work
  have closes : fork.anonymous.Runs env fork.AtWork (Decoding.modifyContext fun c =>
      { c with blocks := c.blocks.tail, depth := c.depth - 1 }) :=
    modifyContext (.nothing fun _ _ => rfl)
  rw [Decoding.closeBlock, runOn_bind, runOn_bind, runOn_get, runOn_get]
  dsimp only
  rw [work.context.blocks]
  split
  -- The mnemonics in the two notices differ.
  · refine Comparison.Ends.bind (unbalanced ?_ work) fun _ _ => closes
    rfl
  · exact closes d d' work

theorem emitAssignment (target value : Text) :
    fork.anonymous.Runs env fork.AtWork (Decoding.emitAssignment target value) := by
  intro d d' work
  obtain ⟨instruction, unclamped, own, other⟩ := work.instruction
  have added := work.toJoined.change (work.context.assign target value)
  refine .ok rfl ⟨?_, work.instruction⟩
  simpa only [own, other, unclamped, Instruction.clamp, Option.map_some, Option.getD_some]
    using added

theorem lockstep : Lockstep fork.anonymous env fork.AtWork where
  toInStep := inStep
  resembling work := work.toJoined.resembling
  note {d d' notice} onLine work := by
    have same : notice d' = notice d := by
      rw [← onLine d d', ← work.line]
    exact ⟨work.toJoined.note (congrArg Notice.anonymous same), work.instruction⟩
  unbalanced _ _ _ work := unbalanced rfl work
  closeBlock := closeBlock
  modifyContext := modifyContext
  emitAssignment := emitAssignment

end AtWork

end Fork
end Decoding
end ShaderLift
