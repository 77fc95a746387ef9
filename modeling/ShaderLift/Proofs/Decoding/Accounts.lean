import ShaderLift.Proofs.Decoding.Handlers
import ShaderLift.Proofs.Progress.Readers

namespace ShaderLift.Decoding

variable {α β γ : Type} {view : Context → γ} {env : Environment} {tokens : List Token}
  {d : Decoder}

theorem skipLine_takes (cursor : Cursor) : cursor.Takes 0 cursor.skipLine := by
  unfold Cursor.skipLine
  split
  · exact .refl cursor
  · exact (passLine_progresses _).takes (cursor, ())

/-- Rows of constants break off with a fault that says so. -/
theorem rowsFrom_failsFor {symbols : Symbols} (passed rest : List Token) (rows : List (List Text))
    (row? : Option (List Text)) :
    FailsFor (Cause symbols tokens) (rowsFrom passed rows row? rest).1 := by
  induction rest generalizing passed rows row? with
  | nil => exact .error (.inl rfl)
  | cons token rest ih =>
    unfold rowsFrom
    cases row? with
    | none =>
      dsimp only
      split
      · exact .ok _
      · split
        · exact ih _ _ _
        · exact .error (.inl rfl)
    | some row =>
      dsimp only
      split <;> exact ih _ _ _

/-- A view of the context that shows neither blocks, statements nor global declarations. -/
def IsApart (view : Context → γ) : Prop :=
  ∀ c depth blocks statements globalDeclarations,
    view { c with depth, blocks, statements, globalDeclarations } = view c

/-- What a run from a decoder accounts for. It does not go back among the tokens, keeps a view of
the context, and returns a value of a kind or fails for a cause. -/
structure Accounted (view : Context → γ) (env : Environment) (tokens : List Token)
    (kind : α → Prop) (d : Decoder) (run : Except Fault α × Decoder) : Prop where
  takes : d.cursor.Takes 0 run.2.cursor
  keeps : view run.2.context = view d.context
  good : ∀ value, run.1 = .ok value → kind value
  fails : FailsFor (Cause env.symbols tokens) run.1

/-- A step accounts for its runs from any decoder of some tokens. -/
def Accounts (view : Context → γ) (env : Environment) (tokens : List Token) (step : Decoding α)
    (kind : α → Prop) : Prop :=
  ∀ d : Decoder, d.cursor.tokens = tokens → Accounted view env tokens kind d (runOn step env d)

variable {kind : α → Prop} {last : β → Prop} {step : Decoding α} {next : α → Decoding β}

namespace Accounted

theorem ok {value : α} {reached : Decoder} (takes : d.cursor.Takes 0 reached.cursor)
    (keeps : view reached.context = view d.context) (good : kind value) :
    Accounted view env tokens kind d (.ok value, reached) := by
  refine ⟨takes, keeps, ?_, .ok value⟩
  rintro _ ⟨⟩
  exact good

theorem error {fault : Fault} {reached : Decoder} (takes : d.cursor.Takes 0 reached.cursor)
    (keeps : view reached.context = view d.context) (cause : Cause env.symbols tokens fault) :
    Accounted view env tokens kind d (.error fault, reached) := by
  refine ⟨takes, keeps, ?_, .error cause⟩
  rintro _ ⟨⟩

theorem chain {start : Decoder} (same : start.cursor.tokens = tokens)
    (first : Accounted view env tokens kind start (runOn step env d))
    (later : ∀ value, kind value → Accounts view env tokens (next value) last) :
    Accounted view env tokens last start (runOn (step >>= next) env d) := by
  rw [runOn_bind]
  generalize runOn step env d = run at first ⊢
  obtain ⟨fault | value, middle⟩ := run
  · exact .error first.takes first.keeps (first.fails fault rfl)
  · have onward := later value (first.good value rfl) middle (first.takes.tokens_eq.trans same)
    exact { onward with
      takes := first.takes.trans onward.takes
      keeps := onward.keeps.trans first.keeps }

end Accounted

namespace Accounts

theorem bind (first : Accounts view env tokens step kind)
    (later : ∀ value, kind value → Accounts view env tokens (next value) last) :
    Accounts view env tokens (step >>= next) last :=
  fun d same => .chain same (first d same) later

/-- What a step returns may not matter to the next one. -/
theorem andThen (first : Accounts view env tokens step fun _ => True)
    (later : ∀ value, Accounts view env tokens (next value) last) :
    Accounts view env tokens (step >>= next) last :=
  .bind first fun value _ => later value

theorem pure {value : α} (good : kind value) : Accounts view env tokens (Pure.pure value) kind :=
  fun _ _ => .ok (.refl _) rfl good

theorem done (value : α) : Accounts view env tokens (Pure.pure value) fun _ => True :=
  .pure trivial

/-- A step that looks at the decoder first. -/
theorem look {next : Decoder → Decoding α}
    (later : ∀ d, Accounts view env tokens (next d) kind) :
    Accounts view env tokens (MonadState.get >>= next) kind :=
  fun d same => later d d same

theorem lift {outcome : Except Fault α} (fails : FailsFor (Cause env.symbols tokens) outcome) :
    Accounts view env tokens (liftM outcome) fun value => outcome = .ok value :=
  fun _ _ => ⟨.refl _, rfl, fun _ => id, fails⟩

theorem fail (cause : DecodeFault) :
    Accounts view env tokens (Decoding.fail cause : Decoding α) kind :=
  fun _ _ => .error (.refl _) rfl (.inl rfl)

/-- A change of the decoder that reads no token. -/
theorem modify {change : Decoder → Decoder} (still : ∀ d, (change d).cursor = d.cursor)
    (kept : ∀ d, view (change d).context = view d.context) :
    Accounts view env tokens (modify change) fun _ => True := by
  refine fun d _ => .ok ?_ (kept d) trivial
  rw [still]
  exact .refl _

theorem note (notice : Notice) : Accounts view env tokens (Decoding.note notice) fun _ => True :=
  .modify (fun _ => rfl) fun _ => rfl

theorem discard (first : Accounts view env tokens step kind) :
    Accounts view env tokens (Functor.discard step) fun _ => True := by
  rw [discard_eq_bind]
  exact .bind first fun _ _ => .done ()

theorem unbalanced (cause : Imbalance) :
    Accounts view env tokens (Decoding.unbalanced cause) fun _ => True := by
  intro d _
  rw [runOn_unbalanced]
  split
  · exact .error (.refl _) rfl (.inl rfl)
  · exact .ok (.refl _) rfl trivial

theorem closeBlock (apart : IsApart view) (expected : Block) :
    Accounts view env tokens (Decoding.closeBlock expected) fun _ => True := by
  refine .look fun d => ?_
  dsimp only
  split
  · exact .andThen (.unbalanced _) fun _ => .modify (fun _ => rfl) fun d =>
      apart d.context _ _ d.context.statements d.context.globalDeclarations
  · exact .modify (fun _ => rfl) fun d =>
      apart d.context _ _ d.context.statements d.context.globalDeclarations

theorem nextToken : Accounts view env tokens Decoding.nextToken fun _ => True := by
  intro d _
  rcases ahead : d.cursor.rest with _ | ⟨token, rest⟩
  · have ended : d.cursor.next = .error (.decode .endOfListing d.cursor.line?) := by
      simp only [Cursor.next, ahead]
    simp only [Decoding.nextToken, runOn_bind, runOn_get, ended, runOn_lift]
    exact .error (.refl _) rfl (.inl rfl)
  · rw [runOn_nextToken env d token rest ahead]
    exact .ok ((Cursor.Takes.next ahead).weaken (Nat.zero_le 1)) rfl trivial

/-- The values of a group are tokens. -/
theorem readGroup : Accounts view env tokens Decoding.readGroup
    fun values => ∀ value ∈ values, ∃ token ∈ tokens, token.text = value := by
  refine .andThen (.discard .nextToken) fun _ d same => ?_
  have moved := (groupFrom_progresses d.line).takes (d.cursor, [])
  rw [runOn_bind, runOn_get]
  dsimp only at moved ⊢
  rcases found : groupFrom d.line d.cursor.passed [] d.cursor.rest with ⟨_ | values, cursor⟩
  · rw [found] at moved
    exact .error moved rfl (.inl rfl)
  · rw [found] at moved
    refine .ok moved rfl fun value inside => ?_
    obtain ⟨group, closing, after, rest, _, _, _, _, whole⟩ :=
      groupFrom_some d.line d.cursor.passed [] d.cursor.rest values _ found
    rw [whole, List.nil_append] at inside
    obtain ⟨token, member, text⟩ := List.mem_map.mp inside
    refine ⟨token, ?_, text⟩
    rw [← same, Cursor.tokens, rest]
    simp [member]

theorem closeBrackets (text : Text) :
    Accounts view env tokens (Decoding.closeBrackets text) fun _ => True := by
  intro d _
  have moved := (joinFrom_progresses d.line).takes (d.cursor, text)
  rw [runOn_closeBrackets_join]
  dsimp only at moved
  generalize joinFrom d.line d.cursor.passed text d.cursor.rest = found at moved ⊢
  obtain ⟨_ | joined, cursor⟩ := found
  · exact .error moved rfl (.inl rfl)
  · exact .ok moved rfl trivial

theorem readLiteral : Accounts view env tokens Decoding.readLiteral fun _ => True := by
  refine .bind .readGroup fun values _ => ?_
  split
  · exact .andThen (.fail _) fun _ => .done _
  · exact .done _

theorem readRawOperand : Accounts view env tokens Decoding.readRawOperand fun _ => True := by
  have first : Accounts view env tokens nextOperandToken fun _ => True := by
    refine .andThen (.look fun _ => .done _) fun token? => ?_
    split
    · exact .nextToken
    · exact .look fun _ => .fail _
  refine .andThen first fun first => .look fun d => ?_
  split
  · exact .readLiteral
  · exact .closeBrackets _

/-- A composed step keeps a view that its changes of the context keep. -/
theorem ofComposed {steady still : Prop} {phase : Phase} {count : Nat} (apart : IsApart view)
    (keeps : ∀ change : Context → Context, (steady → ∀ c, (change c).target = c.target) →
      (still → ∀ c, (change c).declaredTemps = c.declaredTemps) → ∀ c, view (change c) = view c)
    (composed : Composed (.of env.symbols steady still) phase count step kind) :
    Accounts view env tokens step kind := by
  induction composed with
  | pure good => exact .pure good
  | seq _ _ _ first later => exact .bind first later
  | lookup looked fails =>
    intro d _
    rw [looked env d rfl]
    exact ⟨.refl _, rfl, fun _ => id, fails tokens⟩
  | fail cause => exact .fail cause
  | look _ _ later => exact .look later
  | read _ _ later => exact fun d same => later env rfl d same
  | note _ _ _ later => exact .look fun _ => .andThen (.note _) fun _ => later
  | unbalanced _ cause => exact .unbalanced cause
  | closeBlock _ expected => exact .closeBlock apart expected
  | modifyContext target temps =>
    exact .modify (fun _ => rfl) fun d => keeps _ target temps d.context
  | emitAssignment =>
    exact .modify (fun _ => rfl) fun d =>
      apart d.context d.context.depth d.context.blocks _ d.context.globalDeclarations
  | readRawOperand => exact .readRawOperand

theorem declareConstants (apart : IsApart view) :
    Accounts view env tokens Decoding.declareConstants fun _ => True := by
  intro d _
  cases opens : d.cursor.isAt "\x7b" with
  | false =>
    rw [runOn_declareConstants_other env d opens]
    exact .error (.refl _) rfl (.inl rfl)
  | true =>
    obtain ⟨brace, rest, ahead, opens⟩ := (isAt_iff _ _).mp opens
    have opened := (Cursor.Takes.next ahead).weaken (Nat.zero_le 1)
    have moved := rowsFrom_takes (brace :: d.cursor.passed) [] none rest
    have fails : FailsFor (Cause env.symbols tokens) _ :=
      rowsFrom_failsFor (brace :: d.cursor.passed) rest [] none
    rw [runOn_declareConstants_brace env d brace rest ahead opens]
    generalize rowsFrom (brace :: d.cursor.passed) [] none rest = found at moved fails ⊢
    obtain ⟨fault | rows, cursor⟩ := found
    · exact .error (opened.trans moved) rfl (fails fault rfl)
    · exact .ok (opened.trans moved)
        (apart d.context d.context.depth d.context.blocks d.context.statements _) trivial

theorem dispatch {steady still : Prop} (apart : IsApart view)
    (keeps : ∀ change : Context → Context, (steady → ∀ c, (change c).target = c.target) →
      (still → ∀ c, (change c).declaredTemps = c.declaredTemps) → ∀ c, view (change c) = view c)
    {instruction : Instruction} (settled : steady → instruction.opcode.family ≠ .declareTopology)
    (other : still → instruction.opcode.family ≠ .declareTemps) :
    Accounts view env tokens (Decoding.dispatch instruction) fun _ => True := by
  rcases Composed.dispatch_cases env.symbols instruction settled other with
    composed | ⟨_, constants⟩ | skips
  · exact .ofComposed apart keeps composed
  · rw [constants]
    exact .declareConstants apart
  · rw [skips]
    exact fun d _ => .ok (skipLine_takes d.cursor) rfl trivial

end Accounts

/-- A value that a step can return. -/
def Returns (env : Environment) (step : Decoding α) (value : α) : Prop :=
  ∃ d reached, runOn step env d = (.ok value, reached)

theorem Composed.kind_of_returns {steady still : Prop} {phase : Phase} {count : Nat}
    (composed : Composed (.of env.symbols steady still) phase count step kind) {value : α}
    (returns : Returns env step value) : kind value := by
  obtain ⟨d, reached, run⟩ := returns
  have accounts : Accounts (fun _ => ()) env d.cursor.tokens step kind :=
    .ofComposed (fun _ _ _ _ _ => rfl) (fun _ _ _ _ => rfl) composed
  exact (accounts d rfl).good value (congrArg Prod.fst run)

/-- Reads one group or suffix behind a mnemonic, if there is one. -/
def readModifier (instruction : Instruction) : Decoding (ForInStep Instruction) := do
  match ← peekOnLine with
  | none => return .done instruction
  | some token =>
    if token.text = "(" then
      let values ← readGroup
      return .yield (← applyGroup instruction values)
    else if token.text.head? = some '_' then
      discard nextToken
      return .yield (applySuffix instruction token.text)
    else return .done instruction

/-- The modifiers are read one by one until there is none. -/
theorem readModifiersWithin_succ (bound : Nat) (instruction : Instruction) :
    readModifiersWithin (bound + 1) instruction =
      readModifier instruction >>= fun step =>
        match step with
        | .done instruction => return instruction
        | .yield instruction => readModifiersWithin bound instruction := by
  simp only [readModifiersWithin, readModifier, bind_assoc]
  congr 1
  funext token?
  cases token? with
  | none => simp
  | some token =>
    dsimp only
    split
    · simp
    · split
      · simp
      · simp

namespace Accounts

theorem readModifier (instruction : Instruction) :
    Accounts view env tokens (Decoding.readModifier instruction) fun _ => True := by
  refine .andThen (.look fun _ => .done _) fun token? => ?_
  split
  · exact .done _
  · split
    · refine .bind .readGroup fun values given => ?_
      have fails := FailsFor.applyGroup instruction given
      exact .bind (.lift (fails.mono fun _ misread => .inr (.modifier misread))) fun _ _ => .done _
    · split
      · exact .andThen (.discard .nextToken) fun _ => .done _
      · exact .done _

theorem readModifiers (instruction : Instruction) :
    Accounts view env tokens (Decoding.readModifiers instruction) fun _ => True := by
  refine .look fun d => ?_
  generalize d.cursor.rest.length = bound
  induction bound generalizing instruction with
  | zero => exact .done _
  | succ bound ih =>
    rw [readModifiersWithin_succ]
    refine .andThen (.readModifier instruction) fun step => ?_
    split
    · exact .done _
    · exact ih _

end Accounts

/-- Reading an instruction leaves its first token behind. -/
theorem readInstruction_accounted {token : Token} {rest : List Token}
    (ahead : d.cursor.rest = token :: rest) (same : (atMnemonic d token rest).cursor.tokens = tokens) :
    Accounted view env tokens (fun _ => True) (atMnemonic d token rest)
      (runOn readInstruction env d) := by
  rw [runOn_readInstruction env d token rest ahead]
  split
  · obtain ⟨skippedLine, log, skipped⟩ := runOn_skipToken token env (atMnemonic d token rest)
    rw [runOn_bind_of_ok _ _ _ _ _ _ skipped]
    exact .ok (.refl _) rfl trivial
  · exact .chain same (Accounts.readModifiers _ _ same) fun _ _ =>
      .andThen (.modify (fun _ => rfl) fun _ => rfl) fun _ => .done _

/-- A turn leaves its first token behind, whether it is completed or not. -/
theorem turn_accounted {token : Token} {rest : List Token} (ahead : d.cursor.rest = token :: rest)
    (same : (atMnemonic d token rest).cursor.tokens = tokens) :
    Accounted (fun _ => ()) env tokens (fun _ => True) (atMnemonic d token rest)
      (runOn turn env d) := by
  refine .chain same (readInstruction_accounted ahead same) fun instruction? _ => ?_
  split
  · exact .done _
  · exact .dispatch (fun _ _ _ _ _ => rfl) (fun _ _ _ _ => rfl) False.elim False.elim

theorem turn_takes (env : Environment) (d : Decoder) (token : Token) (rest : List Token)
    (ahead : d.cursor.rest = token :: rest) :
    Cursor.Takes ⟨token :: d.cursor.passed, rest⟩ 0 (runOn turn env d).2.cursor :=
  (turn_accounted ahead rfl).takes

end ShaderLift.Decoding
