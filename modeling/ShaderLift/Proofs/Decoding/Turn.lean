import ShaderLift.Proofs.Decoding.Reads

namespace ShaderLift

namespace Decoding

/-- The groups and suffixes behind a mnemonic, up to the first token that is neither. They turn the
instruction of the mnemonic into another one, a group in a way that is given. -/
inductive ModifierRun (applies : Instruction → List Text → Instruction → Prop) (line : Option Int) :
    Instruction → List Token → List Token → Instruction → Prop
  | done {instruction : Instruction} {rest : List Token}
      (stops : ∀ token ∈ rest.head?, line = some token.line →
        token.text ≠ "(" ∧ token.text.head? ≠ some '_') :
      ModifierRun applies line instruction [] rest instruction
  | group {instruction applied result : Instruction} {opening closing : Token}
      {values more rest : List Token} (opens : opening.text = "(")
      (plain : ∀ token ∈ values, token.text ≠ ")") (closes : closing.text = ")")
      (here : line = some opening.line) (aligned : OnLine line (values ++ [closing]))
      (takes : applies instruction (values.map Token.text) applied)
      (later : ModifierRun applies line applied more rest result) :
      ModifierRun applies line instruction (opening :: (values ++ closing :: more)) rest result
  | suffix {instruction result : Instruction} {token : Token} {more rest : List Token}
      (marked : token.text.head? = some '_') (here : line = some token.line)
      (later : ModifierRun applies line (applySuffix instruction token.text) more rest result) :
      ModifierRun applies line instruction (token :: more) rest result

/-- The modifiers behind a mnemonic as they are read. -/
abbrev Modifiers := ModifierRun fun instruction values applied =>
  applyGroup instruction values = .ok applied

theorem Modifiers.onLine {line : Option Int} {instruction result : Instruction}
    {tokens rest : List Token} (modifiers : Modifiers line instruction tokens rest result) :
    OnLine line tokens := by
  induction modifiers with
  | done => exact .nil line
  | group opens plain closes here aligned takes later ih =>
    rw [List.append_cons]
    exact .cons here (aligned.append ih)
  | suffix marked here later ih => exact .cons here ih

theorem readModifiers_stop (bound : Nat) (instruction : Instruction) (env : Environment)
    (d : Decoder) (stops : ∀ token ∈ d.cursor.rest.head?, d.line = some token.line →
      token.text ≠ "(" ∧ token.text.head? ≠ some '_') :
    runOn (readModifiersWithin bound instruction) env d = (.ok instruction, d) := by
  cases bound with
  | zero => rfl
  | succ bound =>
    rw [readModifiersWithin, runOn_bind, runOn_peekOnLine]
    rcases peeked : d.cursor.head?.filter (isOnLine d.line) with _ | token
    · rfl
    · obtain ⟨rest, ahead, here⟩ := peeked_some peeked
      obtain ⟨noGroup, noSuffix⟩ := stops token (by rw [ahead]; rfl) here
      dsimp only
      rw [if_neg noGroup, if_neg noSuffix, runOn_pure]

theorem readModifiers_suffix (bound : Nat) (instruction : Instruction) (env : Environment)
    (d : Decoder) (token : Token) (rest : List Token) (ahead : d.cursor.rest = token :: rest)
    (marked : token.text.head? = some '_') (here : d.line = some token.line) :
    runOn (readModifiersWithin (bound + 1) instruction) env d =
      runOn (readModifiersWithin bound (applySuffix instruction token.text)) env
        (d.past [token] rest d.log) := by
  have noGroup : token.text ≠ "(" := by
    intro opens
    rw [opens] at marked
    cases marked
  rw [readModifiersWithin, runOn_bind, runOn_peekOnLine, peeked_of_ahead d token rest ahead here]
  dsimp only
  rw [if_neg noGroup, if_pos marked, discard_eq_bind, bind_assoc,
    runOn_bind_of_ok _ _ _ _ _ _ (runOn_nextToken env d token rest ahead)]
  rfl

theorem readModifiers_opening (bound : Nat) (instruction : Instruction) (env : Environment)
    (d : Decoder) (opening : Token) (rest : List Token) (ahead : d.cursor.rest = opening :: rest)
    (opens : opening.text = "(") (here : d.line = some opening.line) :
    runOn (readModifiersWithin (bound + 1) instruction) env d =
      match groupFrom d.line (opening :: d.cursor.passed) [] rest with
      | (some values, cursor) =>
        match applyGroup instruction values with
        | .ok applied => runOn (readModifiersWithin bound applied) env { d with cursor }
        | .error fault => (.error fault, { d with cursor })
      | (none, cursor) => (.error (.decode .openParenthesis d.line), { d with cursor }) := by
  rw [readModifiersWithin, runOn_bind, runOn_peekOnLine, peeked_of_ahead d opening rest ahead here]
  dsimp only
  rw [if_pos opens, runOn_bind, runOn_readGroup env d opening rest ahead]
  rcases groupFrom d.line (opening :: d.cursor.passed) [] rest with ⟨_ | values, cursor⟩
  · rfl
  · simp only [runOn_bind, runOn_lift]
    rcases applyGroup instruction values with fault | applied <;> rfl

theorem past_group (d : Decoder) (opening closing : Token) (inside after : List Token) :
    { d with cursor := ⟨closing :: (inside.reverse ++ opening :: d.cursor.passed), after⟩ } =
      d.past (opening :: (inside ++ [closing])) after d.log := by
  simp [Decoder.past]

/-- Either the reading of modifiers fails with only the cursor moved, or it takes the modifiers that
are there. -/
def TakesModifiers (env : Environment) (bound : Nat) (instruction : Instruction) (d : Decoder) :
    Prop :=
  (∃ fault cursor, runOn (readModifiersWithin bound instruction) env d =
    (.error fault, { d with cursor })) ∨
  ∃ tokens after result, d.cursor.rest = tokens ++ after ∧
    Modifiers d.line instruction tokens after result ∧
    runOn (readModifiersWithin bound instruction) env d = (.ok result, d.past tokens after d.log)

namespace TakesModifiers

variable {env : Environment} {bound : Nat} {instruction : Instruction} {d : Decoder}
  {token : Token} {rest : List Token}

theorem stop (stops : ∀ token ∈ d.cursor.rest.head?, d.line = some token.line →
      token.text ≠ "(" ∧ token.text.head? ≠ some '_') : TakesModifiers env bound instruction d :=
  .inr ⟨[], d.cursor.rest, instruction, rfl, .done stops, readModifiers_stop bound _ env d stops⟩

theorem suffix (ahead : d.cursor.rest = token :: rest) (marked : token.text.head? = some '_')
    (here : d.line = some token.line)
    (later : TakesModifiers env bound (applySuffix instruction token.text)
      (d.past [token] rest d.log)) :
    TakesModifiers env (bound + 1) instruction d := by
  have run := readModifiers_suffix bound instruction env d token rest ahead marked here
  rcases later with ⟨fault, cursor, failed⟩ | ⟨more, after, result, split, modifiers, read⟩
  · exact .inl ⟨fault, cursor, run.trans failed⟩
  · refine .inr ⟨token :: more, after, result, ?_, .suffix marked here modifiers, ?_⟩
    · rw [ahead, List.cons_append, ← split]
      rfl
    · rw [run, read, Decoder.past_past]
      rfl

theorem group (ahead : d.cursor.rest = token :: rest) (opens : token.text = "(")
    (here : d.line = some token.line)
    (later : ∀ applied tokens after, rest = tokens ++ after →
      TakesModifiers env bound applied (d.past (token :: tokens) after d.log)) :
    TakesModifiers env (bound + 1) instruction d := by
  have run := readModifiers_opening bound instruction env d token rest ahead opens here
  rcases found : groupFrom d.line (token :: d.cursor.passed) [] rest with ⟨_ | values, cursor⟩
  · rw [found] at run
    exact .inl ⟨_, cursor, run⟩
  · rw [found] at run
    obtain ⟨inside, closing, after, split, rfl, closes, plain, aligned, rfl⟩ :=
      groupFrom_some _ _ _ _ _ _ found
    dsimp only [List.nil_append] at run
    rw [past_group] at run
    rcases takes : applyGroup instruction (inside.map Token.text) with fault | applied
    · rw [takes] at run
      exact .inl ⟨fault, _, run⟩
    · rw [takes] at run
      rcases later applied (inside ++ [closing]) after (by rw [split, List.append_cons]) with
        ⟨fault, cursor, failed⟩ | ⟨more, after', result, split', modifiers, read⟩
      · exact .inl ⟨fault, cursor, run.trans failed⟩
      · refine .inr ⟨token :: (inside ++ closing :: more), after', result, ?_,
          .group opens plain closes here aligned takes modifiers, ?_⟩
        · rw [ahead, split]
          simpa using split'
        · rw [run]
          refine read.trans ?_
          rw [Decoder.past_past]
          simp

end TakesModifiers

theorem readModifiersWithin_takes (bound : Nat) (instruction : Instruction) (env : Environment)
    (d : Decoder) (enough : d.cursor.rest.length ≤ bound) :
    TakesModifiers env bound instruction d := by
  induction bound generalizing instruction d with
  | zero =>
    have none : d.cursor.rest = [] := List.length_eq_zero_iff.mp (Nat.le_zero.mp enough)
    exact .stop (by simp [none])
  | succ bound ih =>
    rcases ahead : d.cursor.rest with _ | ⟨token, rest⟩
    · exact .stop (by simp [ahead])
    · rw [ahead, List.length_cons] at enough
      by_cases here : d.line = some token.line
      · by_cases opens : token.text = "("
        · refine .group ahead opens here fun applied tokens after split => ih applied _ ?_
          rw [split, List.length_append] at enough
          rw [Decoder.past_rest]
          omega
        · by_cases marked : token.text.head? = some '_'
          · refine .suffix ahead marked here (ih _ _ ?_)
            rw [Decoder.past_rest]
            omega
          · refine .stop ?_
            rw [ahead]
            rintro next inside -
            cases inside
            exact ⟨opens, marked⟩
      · refine .stop ?_
        rw [ahead]
        rintro next inside aboard
        cases inside
        exact absurd aboard here

/-- The modifiers that are there are read. -/
theorem runOn_readModifiersWithin (bound : Nat) (env : Environment)
    {instruction result : Instruction} {tokens after : List Token} (d : Decoder)
    (modifiers : Modifiers d.line instruction tokens after result)
    (ahead : d.cursor.rest = tokens ++ after) (enough : tokens.length ≤ bound) :
    runOn (readModifiersWithin bound instruction) env d =
      (.ok result, d.past tokens after d.log) := by
  generalize line : d.line = line? at modifiers
  induction modifiers generalizing bound d with
  | done stops =>
    rw [List.nil_append] at ahead
    rw [readModifiers_stop bound _ env d (by rw [ahead, line]; exact stops), ← ahead,
      Decoder.past_nil]
  | @group instruction applied result opening closing values more rest opens plain closes here
      aligned takes later ih =>
    cases bound with
    | zero => cases enough
    | succ bound =>
      have onward := ih bound (d.past (opening :: (values ++ [closing])) (more ++ rest) d.log) rfl
        (by simp only [List.length_cons, List.length_append] at enough; omega) line
      have inside : d.cursor.rest = opening :: (values ++ closing :: (more ++ rest)) := by
        simpa using ahead
      have grouped := groupFrom_closed d.line (opening :: d.cursor.passed) [] values (more ++ rest)
        closing closes plain (line ▸ aligned)
      rw [readModifiers_opening bound instruction env d opening _ inside opens (line.trans here),
        grouped]
      dsimp only
      rw [List.nil_append, takes]
      dsimp only
      rw [past_group, onward, Decoder.past_past]
      simp
  | @suffix instruction result token more rest marked here later ih =>
    cases bound with
    | zero => cases enough
    | succ bound =>
      rw [readModifiers_suffix bound instruction env d token (more ++ rest) ahead marked
        (line.trans here)]
      rw [ih bound (d.past [token] (more ++ rest) d.log) rfl (Nat.le_of_succ_le_succ enough) line,
        Decoder.past_past]
      rfl

/-- The decoder behind a mnemonic. -/
def atMnemonic (d : Decoder) (mnemonic : Token) (rest : List Token) : Decoder :=
  { d.past [mnemonic] rest d.log with line := some mnemonic.line }

theorem runOn_readInstruction (env : Environment) (d : Decoder) (mnemonic : Token)
    (rest : List Token) (ahead : d.cursor.rest = mnemonic :: rest) :
    runOn readInstruction env d =
      runOn (match Instruction.classify? mnemonic.text with
        | none => do
          skipToken mnemonic
          return none
        | some instruction => do
          let instruction ← readModifiers instruction
          modify fun d => { d with instruction := some instruction }
          return some instruction) env (atMnemonic d mnemonic rest) := by
  rw [readInstruction, runOn_bind_of_ok _ _ _ _ _ _ (runOn_nextToken env d mnemonic rest ahead)]
  rfl

/-- The decoder behind a mnemonic and its modifiers. -/
def atOperands (d : Decoder) (mnemonic : Token) (modifiers after : List Token)
    (instruction : Instruction) : Decoder :=
  { d.past (mnemonic :: modifiers) after d.log with
    line := some mnemonic.line
    instruction := some instruction }

theorem runOn_skipToken (token : Token) (env : Environment) (d : Decoder) :
    ∃ skippedLine log, runOn (skipToken token) env d = (.ok (), { d with skippedLine, log }) := by
  rw [skipToken, runOn_bind, runOn_get]
  dsimp only
  split
  · exact ⟨d.skippedLine, _, rfl⟩
  · exact ⟨some token.line, _, rfl⟩

/-- A token that is no mnemonic is passed over, which changes neither the context nor the
instruction. -/
theorem runOn_readInstruction_none (env : Environment) (d : Decoder) (token : Token)
    (rest : List Token) (ahead : d.cursor.rest = token :: rest)
    (unknown : Instruction.classify? token.text = none) :
    ∃ skippedLine log, runOn readInstruction env d =
      (.ok none, { atMnemonic d token rest with skippedLine, log }) := by
  obtain ⟨skippedLine, log, skipped⟩ := runOn_skipToken token env (atMnemonic d token rest)
  refine ⟨skippedLine, log, ?_⟩
  rw [runOn_readInstruction env d token rest ahead, unknown]
  exact runOn_bind_of_ok _ _ _ _ _ _ skipped

/-- Reading starts at a token, if it succeeds. -/
theorem readInstruction_ahead {env : Environment} {d middle : Decoder}
    {instruction? : Option Instruction}
    (read : runOn readInstruction env d = (.ok instruction?, middle)) :
    ∃ token rest, d.cursor.rest = token :: rest := by
  rcases ahead : d.cursor.rest with _ | ⟨token, rest⟩
  · have ended : d.cursor.next = .error (.decode .endOfListing d.cursor.line?) := by
      simp only [Cursor.next, ahead]
    simp only [readInstruction, nextToken, runOn_bind, runOn_get, ended, runOn_lift] at read
    cases read
  · exact ⟨token, rest, rfl⟩

theorem readInstruction_none {env : Environment} {d middle : Decoder}
    (read : runOn readInstruction env d = (.ok none, middle)) :
    ∃ token rest skippedLine log, d.cursor.rest = token :: rest ∧
      Instruction.classify? token.text = none ∧
      middle = { atMnemonic d token rest with skippedLine, log } := by
  obtain ⟨token, rest, ahead⟩ := readInstruction_ahead read
  rcases classified : Instruction.classify? token.text with _ | instruction
  · obtain ⟨skippedLine, log, skipped⟩ :=
      runOn_readInstruction_none env d token rest ahead classified
    rw [skipped] at read
    cases read
    exact ⟨token, rest, skippedLine, log, ahead, classified, rfl⟩
  · rw [runOn_readInstruction env d token rest ahead, classified] at read
    dsimp only at read
    rw [runOn_bind] at read
    rcases taken : runOn (readModifiers instruction) env (atMnemonic d token rest) with
      ⟨fault | result, reached⟩
    · rw [taken] at read
      cases read
    · rw [taken] at read
      cases read

theorem readInstruction_some {env : Environment} {d middle : Decoder} {instruction : Instruction}
    (read : runOn readInstruction env d = (.ok (some instruction), middle)) :
    ∃ mnemonic modifiers after first, d.cursor.rest = mnemonic :: (modifiers ++ after) ∧
      Instruction.classify? mnemonic.text = some first ∧
      Modifiers (some mnemonic.line) first modifiers after instruction ∧
      middle = atOperands d mnemonic modifiers after instruction := by
  obtain ⟨mnemonic, rest, ahead⟩ := readInstruction_ahead read
  rcases classified : Instruction.classify? mnemonic.text with _ | first
  · obtain ⟨skippedLine, log, skipped⟩ :=
      runOn_readInstruction_none env d mnemonic rest ahead classified
    rw [skipped] at read
    cases read
  · rw [runOn_readInstruction env d mnemonic rest ahead, classified] at read
    dsimp only at read
    rw [runOn_bind] at read
    have start : runOn (readModifiers first) env (atMnemonic d mnemonic rest) =
        runOn (readModifiersWithin rest.length first) env (atMnemonic d mnemonic rest) := rfl
    rcases readModifiersWithin_takes rest.length first env (atMnemonic d mnemonic rest)
        (Nat.le_refl _) with
      ⟨fault, cursor, failed⟩ | ⟨modifiers, after, result, split, modified, taken⟩
    · rw [start, failed] at read
      cases read
    · rw [start, taken] at read
      cases read
      rw [atMnemonic, Decoder.past_rest] at split
      subst split
      refine ⟨mnemonic, modifiers, after, first, ahead, classified, modified, ?_⟩
      simp [atMnemonic, atOperands, Decoder.past]

/-- Reading an instruction leaves the context as it is. -/
theorem readInstruction_context {env : Environment} {d middle : Decoder}
    {instruction? : Option Instruction}
    (read : runOn readInstruction env d = (.ok instruction?, middle)) :
    middle.context = d.context := by
  cases instruction? with
  | none =>
    obtain ⟨token, rest, skippedLine, log, _, _, rfl⟩ := readInstruction_none read
    rfl
  | some instruction =>
    obtain ⟨mnemonic, modifiers, after, first, _, _, _, rfl⟩ := readInstruction_some read
    rfl

/-- A turn decodes the instruction that a mnemonic and its modifiers lead to. -/
theorem runOn_turn (env : Environment) (d : Decoder) (mnemonic : Token)
    (modifiers after : List Token) (instruction result : Instruction)
    (ahead : d.cursor.rest = mnemonic :: (modifiers ++ after))
    (classified : Instruction.classify? mnemonic.text = some instruction)
    (modified : Modifiers (some mnemonic.line) instruction modifiers after result) :
    runOn turn env d =
      runOn (dispatch result) env (atOperands d mnemonic modifiers after result) := by
  have read := runOn_readInstruction env d mnemonic _ ahead
  rw [classified] at read
  have taken : runOn (readModifiers instruction) env (atMnemonic d mnemonic (modifiers ++ after)) =
      _ := runOn_readModifiersWithin (modifiers ++ after).length env
        (atMnemonic d mnemonic (modifiers ++ after)) modified rfl (by simp)
  refine (runOn_bind_of_ok _ _ _ _ _ _ (read.trans (runOn_bind_of_ok _ _ _ _ _ _ taken))).trans ?_
  simp [atMnemonic, atOperands, Decoder.past]

theorem runOn_turn_of_error {env : Environment} {d reached : Decoder} {mnemonic : Token}
    {rest : List Token} {instruction : Instruction} {fault : Fault}
    (ahead : d.cursor.rest = mnemonic :: rest)
    (classified : Instruction.classify? mnemonic.text = some instruction)
    (failed : runOn (readModifiersWithin rest.length instruction) env (atMnemonic d mnemonic rest) =
      (.error fault, reached)) :
    runOn turn env d = (.error fault, reached) := by
  have start : runOn (readModifiers instruction) env (atMnemonic d mnemonic rest) = _ := failed
  have read := runOn_readInstruction env d mnemonic rest ahead
  rw [classified] at read
  exact runOn_bind_of_error _ _ _ _ _ _ (read.trans (runOn_bind_of_error _ _ _ _ _ _ start))

/-- A turn that starts with a mnemonic fails at its modifiers, with only the cursor moved, unless
there are such modifiers as are read. -/
theorem turn_modifiers (env : Environment) (d : Decoder) (mnemonic : Token) (rest : List Token)
    (instruction : Instruction) (ahead : d.cursor.rest = mnemonic :: rest)
    (classified : Instruction.classify? mnemonic.text = some instruction) :
    (∃ fault cursor, runOn turn env d =
      (.error fault, { atMnemonic d mnemonic rest with cursor })) ∨
    ∃ tokens after result, rest = tokens ++ after ∧
      Modifiers (some mnemonic.line) instruction tokens after result := by
  rcases readModifiersWithin_takes rest.length instruction env (atMnemonic d mnemonic rest)
      (Nat.le_refl _) with
    ⟨fault, cursor, failed⟩ | ⟨tokens, after, result, split, modifiers, _⟩
  · exact .inl ⟨fault, cursor, runOn_turn_of_error ahead classified failed⟩
  · exact .inr ⟨tokens, after, result, split, modifiers⟩

theorem runOn_declareConstants_other (env : Environment) (d : Decoder)
    (other : d.cursor.isAt "\x7b" = false) :
    runOn declareConstants env d = (.error (.decode .constantsWithoutBrace d.line), d) := by
  rw [declareConstants, runOn_bind, runOn_get]
  dsimp only
  rw [other, if_pos (by decide), runOn_bind, runOn_fail]

theorem runOn_declareConstants_brace (env : Environment) (d : Decoder) (brace : Token)
    (rest : List Token) (ahead : d.cursor.rest = brace :: rest) (opens : brace.text = "\x7b") :
    runOn declareConstants env d =
      match rowsFrom (brace :: d.cursor.passed) [] none rest with
      | (.error fault, cursor) => (.error fault, { d with cursor })
      | (.ok rows, cursor) =>
        (.ok (), { d with
          cursor
          context := { d.context with globalDeclarations :=
            d.context.globalDeclarations ++ [constantsDeclaration env.config.indent rows] } }) := by
  have at_brace : d.cursor.isAt "\x7b" = true := by simp [Cursor.isAt, ahead, opens]
  rw [declareConstants, runOn_bind, runOn_get]
  dsimp only
  rw [at_brace, if_neg (by decide), discard_eq_bind, bind_assoc,
    runOn_bind_of_ok _ _ _ _ _ _ (runOn_nextToken env d brace rest ahead)]
  simp only [pure_bind, runOn_bind, runOn_get, runOn_setCursor, runOn_read, runOn_lift]
  rcases rowsFrom (brace :: d.cursor.passed) [] none rest with ⟨fault | rows, cursor⟩
  · rfl
  · rfl

/-- Declaring constants adds to the global declarations at most. -/
theorem declareConstants_context (env : Environment) (d : Decoder) :
    ∃ globalDeclarations,
      (runOn declareConstants env d).2.context = { d.context with globalDeclarations } := by
  cases opens : d.cursor.isAt "\x7b" with
  | false =>
    rw [runOn_declareConstants_other env d opens]
    exact ⟨d.context.globalDeclarations, rfl⟩
  | true =>
    obtain ⟨brace, rest, ahead, opens⟩ := (isAt_iff _ _).mp opens
    rw [runOn_declareConstants_brace env d brace rest ahead opens]
    rcases rowsFrom (brace :: d.cursor.passed) [] none rest with ⟨fault | rows, cursor⟩
    · exact ⟨d.context.globalDeclarations, rfl⟩
    · exact ⟨_, rfl⟩

end Decoding
end ShaderLift
