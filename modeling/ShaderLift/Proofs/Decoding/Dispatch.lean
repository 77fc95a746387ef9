import ShaderLift.Proofs.Decoding.Handlers

namespace ShaderLift.Decoding

variable {α β : Type} {env : Environment} {terms : Terms} {phase early : Phase}
  {count further : Nat} {kind : α → Prop} {last : β → Prop} {step : Decoding α}
  {next : α → Decoding β} {effect later : Outline → Outline → Prop}

/-- An operand that the line of a decoder goes on with, possibly behind others. -/
def IsAhead (d : Decoder) (raw : Text) : Prop :=
  ∃ operands texts after, OperandRun d.line d.cursor.rest operands texts after ∧ raw ∈ texts

/-- Between two decoders no token is read; if the outcome is a success, the outline has changed as
said. -/
def Decoded (effect : Outline → Outline → Prop) (d : Decoder) (outcome : Except Fault α)
    (reached : Decoder) : Prop :=
  reached.cursor = d.cursor ∧ ∀ value, outcome = .ok value → effect d.outline reached.outline

/-- What a step comes to that reads a number of operands. Either it breaks off there, and only the
cursor and the log have changed, or it goes on behind the operands. -/
inductive EndsReading (terms : Terms) (phase : Phase) (count : Nat) (kind : α → Prop)
    (effect : Outline → Outline → Prop) (d : Decoder) : Except Fault α × Decoder → Prop
  | broken {fault : Fault} {cursor : Cursor} {log : Log} (cause : terms.Unreadable fault)
      (unmoved : count = 0 → cursor = d.cursor) :
      EndsReading terms phase count kind effect d (.error fault, { d with cursor, log })
  | past (log : Log) {operands : List (List Token)} {texts : List Text} {after : List Token}
      {outcome : Except Fault α} {reached : Decoder}
      (run : OperandRun d.line d.cursor.rest operands texts after)
      (counted : operands.length = count)
      (decoded : Decoded effect (d.past operands.flatten after log) outcome reached)
      (good : ∀ value, outcome = .ok value → kind value)
      (succeeds : phase = .reads → ∃ value, outcome = .ok value)
      (quiet : phase ≠ .writes → reached = d.past operands.flatten after log) :
      EndsReading terms phase count kind effect d (outcome, reached)

/-- A step reads a number of operands and changes the outline behind them, from any decoder whose
operands may be looked up. -/
def ReadsThen (terms : Terms) (env : Environment) (phase : Phase) (count : Nat) (step : Decoding α)
    (kind : α → Prop) (effect : Outline → Outline → Prop) : Prop :=
  ∀ d, (0 < count → ∀ raw, IsAhead d raw → terms.seen raw) →
    EndsReading terms phase count kind effect d (runOn step env d)

theorem OperandRun.cursor_past {d : Decoder} {operands : List (List Token)} {texts : List Text}
    {after : List Token} (run : OperandRun d.line d.cursor.rest operands texts after)
    (none : operands.length = 0) (log : Log) :
    (d.past operands.flatten after log).cursor = d.cursor := by
  generalize ahead : d.cursor.rest = rest at run
  cases run with
  | nil =>
    rw [← ahead]
    rfl
  | cons => cases none

/-- What a step comes to from another log. -/
theorem EndsReading.ofLog {d : Decoder} {log : Log} {run : Except Fault α × Decoder}
    (ends : EndsReading terms phase count kind effect { d with log } run) :
    EndsReading terms phase count kind effect d run := by
  cases ends with
  | broken cause unmoved => exact .broken cause unmoved
  | past log run counted decoded good succeeds quiet =>
    exact .past log run counted decoded good succeeds quiet

namespace ReadsThen

/-- Behind a step that writes nothing. Only behind steps that read is anything read. -/
theorem chain (first : ReadsThen terms env early count step kind effect)
    (second : ∀ value, kind value → ReadsThen terms env phase further (next value) last later)
    (calm : early ≠ .writes) (order : early = .reads ∨ further = 0 ∧ phase ≠ .reads) :
    ReadsThen terms env phase (further + count) (step >>= next) last later := by
  intro d sees
  have start := first d fun some => sees (Nat.add_pos_right further some)
  rw [runOn_bind]
  generalize runOn step env d = run at start ⊢
  cases start with
  | broken cause unmoved => exact .broken cause fun none => unmoved (Nat.add_eq_zero_iff.mp none).2
  | @past log operands texts after outcome middle run counted decoded good succeeds quiet =>
    obtain rfl := quiet calm
    cases outcome with
    | error fault =>
      rcases order with reads | ⟨rfl, late⟩
      · obtain ⟨value, success⟩ := succeeds reads
        cases success
      · rw [Nat.zero_add]
        exact .past log run counted ⟨rfl, nofun⟩ nofun (fun reads => absurd reads late) fun _ => rfl
    | ok value =>
      have onward := second value (good value rfl) (d.past operands.flatten after log)
        fun some raw ⟨_, _, _, run', inside⟩ => sees (Nat.add_pos_left some count) raw
          ⟨_, _, _, run.append run', List.mem_append_right _ inside⟩
      dsimp only
      generalize runOn (next value) env (d.past operands.flatten after log) = result at onward ⊢
      cases onward with
      | broken cause unmoved =>
        refine .broken cause fun none => ?_
        obtain ⟨first, second⟩ := Nat.add_eq_zero_iff.mp none
        rw [unmoved first, run.cursor_past (counted.trans second)]
      | past log' run' counted' decoded' good' succeeds' quiet' =>
        rw [Decoder.past_past, ← List.flatten_append] at decoded' quiet'
        refine .past log' (run.append run') ?_ decoded' good' succeeds' quiet'
        rw [List.length_append, counted, counted', Nat.add_comm]

/-- Behind a step that writes. -/
theorem behind {whole : Outline → Outline → Prop}
    (first : ReadsThen terms env .writes count step kind effect)
    (second : ∀ value, kind value → ReadsThen terms env .writes 0 (next value) last later)
    (compose : ∀ o middle reached, effect o middle → later middle reached → whole o reached) :
    ReadsThen terms env .writes count (step >>= next) last whole := by
  intro d sees
  have start := first d sees
  rw [runOn_bind]
  generalize runOn step env d = run at start ⊢
  cases start with
  | broken cause unmoved => exact .broken cause unmoved
  | @past log operands texts after outcome middle run counted decoded good succeeds quiet =>
    cases outcome with
    | error fault => exact .past log run counted ⟨decoded.1, nofun⟩ nofun nofun nofun
    | ok value =>
      have onward := second value (good value rfl) middle nofun
      dsimp only
      generalize runOn (next value) env middle = result at onward ⊢
      cases onward with
      | broken cause unmoved =>
        exact .past log run counted ⟨(unmoved rfl).trans decoded.1, nofun⟩ nofun nofun nofun
      | past log' run' counted' decoded' good' =>
        have place := decoded'.1.trans (run'.cursor_past counted' log')
        refine .past log run counted ⟨place.trans decoded.1, fun result success => ?_⟩ good' nofun
          nofun
        exact compose _ _ _ (decoded.2 value rfl) (decoded'.2 result success)

end ReadsThen

/-- Composed steps read first and add plain statements then, where they are asked to. -/
theorem Composed.readsThen (known : env.symbols = terms.symbols) (plainly : terms.plainly)
    (composed : Composed terms phase count step kind) :
    ReadsThen terms env phase count step kind Outline.Appends := by
  induction composed with
  | pure good =>
    refine fun d _ => .past d.log (.nil _) rfl ⟨rfl, fun _ _ => .refl _⟩ (fun _ same => ?_)
      (fun _ => ⟨_, rfl⟩) fun _ => rfl
    cases same
    exact good
  | @seq early phase _ _ _ _ _ _ _ _ _ _ order first later =>
    cases early with
    | reads => exact .chain first later nofun (.inl rfl)
    | looks =>
      obtain ⟨none, rfl | rfl⟩ := order.resolve_left nofun
      · exact .chain first later nofun (.inr ⟨none, nofun⟩)
      · exact .chain first later nofun (.inr ⟨none, nofun⟩)
    | writes =>
      obtain ⟨rfl, rfl | rfl⟩ := order.resolve_left nofun
      · rw [Nat.zero_add]
        exact .behind first later fun _ _ _ front back => front.trans back
      · rw [Nat.zero_add]
        exact .behind first later fun _ _ _ front back => front.trans back
  | @lookup phase _ _ outcome looked _ early =>
    intro d _
    rw [looked env d known]
    cases outcome with
    | error fault =>
      by_cases reads : phase = .reads
      · exact .broken (early reads fault rfl) fun _ => rfl
      · exact .past d.log (.nil _) rfl ⟨rfl, nofun⟩ nofun (fun same => absurd same reads) fun _ => rfl
    | ok value =>
      exact .past d.log (.nil _) rfl ⟨rfl, fun _ _ => .refl _⟩ (fun _ same => same)
        (fun _ => ⟨_, rfl⟩) fun _ => rfl
  | fail cause => exact fun d _ => .broken (.inl rfl) fun _ => rfl
  | look _ _ later => exact fun d sees => later d d sees
  | read _ _ later => exact fun d sees => later env known d sees
  | note _ _ _ later => exact fun d sees => .ofLog (later { d with log := d.log ++ [_] } sees)
  | unbalanced free => exact absurd plainly free
  | closeBlock free => exact absurd plainly free
  | modifyContext _ _ plain =>
    exact fun d _ => .past d.log (.nil _) rfl ⟨rfl, fun _ _ => plain plainly d.context⟩
      (fun _ _ => trivial) nofun nofun
  | emitAssignment target value =>
    refine fun d _ => .past d.log (.nil _) rfl ⟨rfl, fun _ _ => ?_⟩ (fun _ _ => trivial) nofun nofun
    exact .single d.outline _ (equation_plain target _) (.inr rfl)
  | readRawOperand =>
    intro d sees
    rcases runOn_readRawOperand env d with
      ⟨cause, cursor, failed⟩ | ⟨operand, after, text, split, isOperand, read⟩
    · rw [failed]
      exact .broken (.inl rfl) nofun
    · have run : OperandRun d.line d.cursor.rest [operand] [text] after := by
        rw [split]
        exact .single isOperand
      rw [read, ← show [operand].flatten = operand by simp]
      refine .past d.log run rfl ⟨rfl, fun _ _ => .refl _⟩ (fun _ same => ?_) (fun _ => ⟨_, rfl⟩)
        fun _ => rfl
      cases same
      exact sees Nat.one_pos text ⟨_, _, _, run, List.mem_singleton_self text⟩

/-- The terms under which the operands ahead of a decoder are read and plain statements added. -/
abbrev Terms.ahead (env : Environment) (d : Decoder) : Terms :=
  ⟨env.symbols, False, False, True, IsAhead d⟩

/-- A step reads no token and changes the outline as said if it succeeds. -/
def Writes (env : Environment) (step : Decoding α) (effect : Outline → Outline → Prop) : Prop :=
  ∀ d, Decoded effect d (runOn step env d).1 (runOn step env d).2

namespace ReadsThen

theorem writes (reads : ReadsThen terms env phase 0 step kind effect) : Writes env step effect := by
  intro d
  have ends := reads d nofun
  generalize runOn step env d = run at ends ⊢
  cases ends with
  | broken cause unmoved => exact ⟨unmoved rfl, nofun⟩
  | past log run counted decoded => exact ⟨decoded.1.trans (run.cursor_past counted log), decoded.2⟩

theorem ofWrites (written : Writes env step effect) :
    ReadsThen terms env .writes 0 step (fun _ => True) effect :=
  fun d _ => .past d.log (.nil _) rfl (written d) (fun _ _ => trivial) nofun nofun

variable {d : Decoder}

/-- One operand is read first. -/
theorem operand (first : Composed (.ahead env d) .reads 1 step kind)
    (second : ∀ value, kind value →
      ReadsThen (.ahead env d) env .writes further (next value) last effect) :
    ReadsThen (.ahead env d) env .writes (further + 1) (step >>= next) last effect :=
  .chain (first.readsThen rfl trivial) second nofun (.inl rfl)

/-- An operand is read first and resolved. -/
theorem expression {next : Text → Decoding β}
    (second : ∀ value, ReadsThen (.ahead env d) env .writes further (next value) last effect) :
    ReadsThen (.ahead env d) env .writes (further + 1)
      (readRawOperand >>= fun raw => resolve raw >>= next) last effect := by
  refine .operand .readRawOperand fun raw seen => ?_
  have looked : Composed (.ahead env d) .reads 0 (resolve raw) := .resolve raw fun _ => seen
  exact .chain (looked.readsThen rfl trivial) (fun value _ => second value) nofun (.inl rfl)

/-- Nothing is read behind a step that writes nothing. -/
theorem ending (first : Composed (.ahead env d) early count step kind) (calm : early ≠ .writes)
    (second : ∀ value, Writes env (next value) effect) :
    ReadsThen (.ahead env d) env .writes count (step >>= next) (fun _ => True) effect := by
  have both := ReadsThen.chain (first.readsThen rfl trivial)
    (fun value _ => .ofWrites (second value)) calm (.inr ⟨rfl, nofun⟩)
  rwa [Nat.zero_add] at both

end ReadsThen

namespace Writes

theorem ofComposed (d : Decoder) (composed : Composed (.ahead env d) phase 0 step kind) :
    Writes env step Outline.Appends :=
  (composed.readsThen rfl trivial).writes

theorem bind {whole : Outline → Outline → Prop}
    (first : Writes env step effect) (second : ∀ value, Writes env (next value) later)
    (compose : ∀ o middle reached, effect o middle → later middle reached → whole o reached) :
    Writes env (step >>= next) whole := by
  intro d
  have start := first d
  rw [runOn_bind]
  rcases found : runOn step env d with ⟨fault | value, middle⟩
  · rw [found] at start
    exact ⟨start.1, nofun⟩
  · rw [found] at start
    have onward := second value middle
    refine ⟨onward.1.trans start.1, fun result success => ?_⟩
    exact compose _ _ _ (start.2 value rfl) (onward.2 result success)

/-- A known change first. -/
theorem chain {change : Outline → Outline}
    (first : Writes env step fun o reached => reached = change o)
    (second : ∀ value, Writes env (next value) effect) :
    Writes env (step >>= next) fun o reached => effect (change o) reached := by
  refine first.bind second ?_
  rintro o middle reached rfl changed
  exact changed

theorem mono {step : Decoding α} (first : Writes env step effect)
    (weaker : ∀ o reached, effect o reached → later o reached) : Writes env step later :=
  fun d => ⟨(first d).1, fun value success => weaker _ _ ((first d).2 value success)⟩

end Writes

theorem beginBlock_writes {head : Text} (block : Block) (plain : PlainText head) :
    Writes env (beginBlock head block) (Marker.Effect env.config.strict (.opening block)) :=
  fun _ => ⟨rfl, fun _ _ => ⟨head, plain, rfl⟩⟩

theorem emit_writes (text : Text) : Writes env (emit text) fun o reached => reached = o.add text :=
  fun _ => ⟨rfl, fun _ _ => rfl⟩

theorem openBlock_writes (block : Block) :
    Writes env (openBlock block) fun o reached => reached = o.enter block :=
  fun _ => ⟨rfl, fun _ _ => rfl⟩

theorem unbalanced_writes (cause : Imbalance) :
    Writes env (unbalanced cause) fun o reached => env.config.strict = false ∧ reached = o := by
  intro d
  rw [runOn_unbalanced]
  cases strict : env.config.strict with
  | true => exact ⟨rfl, nofun⟩
  | false => exact ⟨rfl, fun _ _ => ⟨rfl, rfl⟩⟩

/-- A step that first looks at the innermost block. -/
theorem topBlock_writes {next : Option Block → Decoding Unit} {effect : Outline → Outline → Prop}
    (later : ∀ block?, Writes env (next block?) fun o reached =>
      o.blocks.head? = block? → effect o reached) :
    Writes env (topBlock >>= next) effect := by
  intro d
  have start : runOn (topBlock >>= next) env d = runOn (next d.context.blocks.head?) env d := rfl
  rw [start]
  exact ⟨(later _ d).1, fun value success => (later _ d).2 value success rfl⟩

theorem closeBlock_writes (block : Block) :
    Writes env (closeBlock block) fun o reached =>
      (env.config.strict = true → o.blocks.head? = some block) ∧ reached = o.leave := by
  have closing : Writes env (modifyContext fun c =>
      { c with blocks := c.blocks.tail, depth := c.depth - 1 })
      fun o reached => reached = o.leave := fun _ => ⟨rfl, fun _ _ => rfl⟩
  intro d
  rw [closeBlock, runOn_bind, runOn_get]
  dsimp only
  split
  · refine (unbalanced_writes _).bind (fun _ => closing) ?_ d
    rintro o middle reached ⟨tolerant, rfl⟩ left
    exact ⟨fun strict => by simp [tolerant] at strict, left⟩
  · rename_i matching
    refine ⟨rfl, fun _ _ => ⟨fun _ => Decidable.not_not.mp matching, rfl⟩⟩

theorem endBlock_writes (block : Block) :
    Writes env (endBlock block) fun o reached =>
      (env.config.strict = true → o.blocks.head? = some block) ∧ reached = o.leave.add "\x7d" := by
  refine (closeBlock_writes block).bind (fun _ => emit_writes _) ?_
  rintro o middle reached ⟨matching, rfl⟩ rfl
  exact ⟨matching, rfl⟩

/-- A label is left only where it is innermost. -/
theorem leaveLabel_writes : Writes env leaveLabel fun o reached => reached = o.leaveLabel := by
  refine topBlock_writes fun block? => ?_
  split
  · rename_i inner
    refine (closeBlock_writes .label).mono ?_
    rintro o reached ⟨_, rfl⟩ top
    exact (if_pos (top.trans inner)).symm
  · rename_i outer
    refine fun d => ⟨rfl, fun _ _ top => ?_⟩
    exact (if_neg fun labelled => outer (top.symm.trans labelled)).symm

theorem elseMarker_writes :
    Writes env elseMarker (Marker.Effect env.config.strict .alternative) := by
  refine topBlock_writes fun block? => ?_
  split
  · rename_i differs
    refine (unbalanced_writes _).mono ?_
    rintro o reached ⟨tolerant, rfl⟩ top
    exact ⟨fun branch => absurd (top.symm.trans branch) differs, fun _ => ⟨tolerant, rfl⟩⟩
  · rename_i inner
    refine fun d => ⟨rfl, fun _ _ top => ⟨fun _ => rfl, fun other => ?_⟩⟩
    exact absurd (top.trans (Decidable.not_not.mp inner)) other

theorem label_writes {text : Text} (labels : LineKind.ofLine text = .label) :
    Writes env (label text) (Marker.Effect env.config.strict .label) := by
  have all : Writes env (label text) _ := leaveLabel_writes.chain fun _ =>
    (emit_writes text).chain fun _ => openBlock_writes .label
  refine all.mono ?_
  rintro o reached rfl
  exact ⟨text, labels, rfl⟩

theorem endSwitch_writes :
    Writes env endSwitch (Marker.Effect env.config.strict (.closing .select)) :=
  leaveLabel_writes.chain fun _ => endBlock_writes .select

theorem exit_writes {text : Text} (exits : LineKind.ofLine text = .exit) :
    Writes env (emit text >>= fun _ => leaveLabel) (Marker.Effect env.config.strict .exit) := by
  refine ((emit_writes text).chain fun _ => leaveLabel_writes).mono ?_
  rintro o reached rfl
  exact ⟨text, exits, rfl⟩

theorem runOn_returnStatement (env : Environment) (d : Decoder) :
    ∃ text, LineKind.ofLine text = .exit ∧ runOn returnStatement env d = (.ok text, d) := by
  simp only [returnStatement, runOn_bind, runOn_get, runOn_registers]
  split
  · exact ⟨"return;", by decide, rfl⟩
  · exact ⟨"return output;", by decide, rfl⟩

theorem leave_writes : Writes env leave (Marker.Effect env.config.strict .innerExit) := by
  intro d
  have start : runOn leave env d = runOn (if 0 < d.outline.depth then
      returnStatement >>= fun text => emit text >>= fun _ => leaveLabel else pure ()) env d := rfl
  rw [start]
  by_cases inside : 0 < d.outline.depth
  · obtain ⟨text, exits, returned⟩ := runOn_returnStatement env d
    rw [if_pos inside, runOn_bind_of_ok _ _ _ _ _ _ returned]
    have exited : Writes env _ _ := exit_writes exits
    refine ⟨(exited d).1, fun value success => ⟨fun _ => ?_, fun outside => absurd inside outside⟩⟩
    exact (exited d).2 value success
  · rw [if_neg inside]
    exact ⟨rfl, fun _ _ => ⟨fun deeper => absurd deeper inside, fun _ => rfl⟩⟩

theorem inBraces_writes {statements : Decoding Unit}
    (inside : Writes env statements Outline.Appends) :
    Writes env (inBraces statements) (Marker.Effect env.config.strict .scope) := by
  have opening : Writes env (modifyContext fun c => { c with depth := c.depth + 1 })
      fun o reached => reached = o.shift 1 := fun _ => ⟨rfl, fun _ _ => rfl⟩
  have closing : Writes env (modifyContext fun c => { c with depth := c.depth - 1 })
      fun o reached => reached = o.shift (-1) := fun _ => ⟨rfl, fun _ _ => rfl⟩
  have ending : Writes env _ fun o reached => ∃ inner, o.Appends inner ∧
      reached = (inner.shift (-1)).add "\x7d" :=
    inside.bind (fun _ => closing.chain fun _ => emit_writes "\x7d")
      fun _ inner _ appended closed => ⟨inner, appended, closed⟩
  exact (emit_writes "\x7b").chain fun _ => opening.chain fun _ => ending

theorem atomicReturning_reads (opcode : Opcode) (d : Decoder) :
    ReadsThen (.ahead env d) env .writes (opcode.arity - 3 + 3) (atomicReturning opcode)
      (fun _ => True) (Marker.Effect env.config.strict .scope) := by
  refine .operand .readDestination fun destination _ => .operand .readResource fun resource _ => ?_
  refine .expression fun address => .ending (.atomicValues opcode _) nofun fun values => ?_
  have target : Composed (.ahead env d) .looks 0 (atomicTarget resource address) :=
    .atomicTarget resource address
  refine (ReadsThen.ending target nofun fun place => inBraces_writes ?_).writes
  exact .ofComposed d .atomicStatements

/-- An instruction reads its operands and then acts as its marker. -/
theorem dispatch_reads (instruction : Instruction)
    (regular : instruction.opcode.family.isIrregular = false) (d : Decoder) :
    EndsReading (.ahead env d) .writes instruction.opcode.operands (fun _ => True)
      (Marker.Effect env.config.strict instruction.opcode.family.marker) d
      (runOn (dispatch instruction) env d) := by
  suffices reads : ReadsThen (.ahead env d) env .writes instruction.opcode.operands
      (dispatch instruction) (fun _ => True)
      (Marker.Effect env.config.strict instruction.opcode.family.marker) from
    reads d fun _ _ inside => inside
  obtain ⟨mnemonic, ⟨family, arity, kind, symbol, width⟩, saturate, offsets, type, stride⟩ :=
    instruction
  by_cases plain : family.marker = .none
  · have composed : Composed (.ahead env d) .writes _ _ :=
      .dispatch _ regular False.elim False.elim fun _ => plain
    rw [show Marker.Effect _ _ = Outline.Appends by rw [plain]; rfl]
    exact composed.readsThen rfl trivial
  cases family with
  | ifMarker =>
    exact .ending (.condition _) nofun fun _ =>
      beginBlock_writes .branch (plainText_of_parenthesis _ (List.getLast?_concat ..))
  | elseMarker => exact .ofWrites elseMarker_writes
  | endIf => exact .ofWrites (endBlock_writes .branch)
  | loop => exact .ofWrites (beginBlock_writes .loop (by decide))
  | endLoop => exact .ofWrites (endBlock_writes .loop)
  | switch =>
    exact .expression fun _ => .ofWrites
      (beginBlock_writes .select (plainText_of_parenthesis _ (List.getLast?_concat ..)))
  | caseLabel =>
    exact .ending .readRawOperand nofun fun raw => label_writes (LineKind.ofLine_case raw)
  | defaultLabel => exact .ofWrites (label_writes (by decide))
  | endSwitch => exact .ofWrites endSwitch_writes
  | breakOut => exact .ofWrites (exit_writes (by decide))
  | leave => exact .ofWrites leave_writes
  | atomicReturning => exact atomicReturning_reads _ d
  | _ => exact absurd rfl plain

theorem marker_of_irregular (family : Family) (irregular : family.isIrregular = true) :
    family.marker = .none := by
  cases family <;> cases irregular
  · rfl
  · rfl

/-- An irregular instruction leaves the outline as it is. -/
theorem irregular_outline (instruction : Instruction)
    (irregular : instruction.opcode.family.isIrregular = true) (d : Decoder) :
    (runOn (dispatch instruction) env d).2.outline = d.outline := by
  obtain ⟨mnemonic, ⟨family, arity, kind, symbol, width⟩, saturate, offsets, type, stride⟩ :=
    instruction
  cases family <;> cases irregular
  · obtain ⟨globalDeclarations, declared⟩ := declareConstants_context env d
    rw [Decoder.outline, show dispatch _ = declareConstants from rfl, declared]
    rfl
  · rfl

/-- A completed instruction has acted as its marker. -/
theorem dispatch_effect (instruction : Instruction) (d reached : Decoder)
    (completed : runOn (dispatch instruction) env d = (.ok (), reached)) :
    instruction.opcode.family.marker.Effect env.config.strict d.outline reached.outline := by
  cases irregular : instruction.opcode.family.isIrregular with
  | false =>
    have reads : EndsReading (.ahead env d) _ _ _ _ d _ := dispatch_reads instruction irregular d
    rw [completed] at reads
    cases reads with
    | past log run counted decoded => exact decoded.2 () rfl
  | true =>
    have same : (runOn (dispatch instruction) env d).2.outline = d.outline :=
      irregular_outline instruction irregular d
    rw [completed] at same
    rw [marker_of_irregular _ irregular, same]
    exact .refl _

end ShaderLift.Decoding
