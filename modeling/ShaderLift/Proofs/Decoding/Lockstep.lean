import ShaderLift.Proofs.Decoding.Accounts

namespace ShaderLift.Decoding

variable {α β : Type} {env : Environment} {d d' : Decoder} {line : Option Int} {rest : List Token}
  {related reached : Decoder → Decoder → Prop} {values : α → α → Prop}

/-- What two runs are to have in common where they fail. -/
structure Comparison where
  /-- What is compared of a fault. -/
  tells : Fault → Fault
  failed : Decoder → Decoder → Prop

variable {c : Comparison}

namespace Comparison

/-- Two runs end with such values at such decoders, or with faults that tell the same. -/
inductive Ends (c : Comparison) (values : α → α → Prop) (related : Decoder → Decoder → Prop) :
    Except Fault α × Decoder → Except Fault α × Decoder → Prop
  | ok {value value' : α} {d d' : Decoder} (same : values value value') (holds : related d d') :
      Ends c values related (.ok value, d) (.ok value', d')
  | error {fault fault' : Fault} {d d' : Decoder} (same : c.tells fault' = c.tells fault)
      (failed : c.failed d d') : Ends c values related (.error fault, d) (.error fault', d')

/-- A step ends with the same value from any two related decoders. -/
def Runs (c : Comparison) (env : Environment) (related : Decoder → Decoder → Prop)
    (step : Decoding α) : Prop :=
  ∀ d d', related d d' → c.Ends Eq related (runOn step env d) (runOn step env d')

theorem Ends.bind {step step' : Decoding α} {next : α → Decoding β}
    (first : c.Ends Eq related (runOn step env d) (runOn step' env d'))
    (later : ∀ value, Returns env step value → ∀ d d', related d d' →
      c.Ends Eq reached (runOn (next value) env d) (runOn (next value) env d')) :
    c.Ends Eq reached (runOn (step >>= next) env d) (runOn (step' >>= next) env d') := by
  rw [runOn_bind, runOn_bind]
  generalize found : runOn step env d = run at first ⊢
  generalize runOn step' env d' = run' at first ⊢
  cases first with
  | @ok value _ _ _ same holds =>
    cases same
    exact later value ⟨d, _, found⟩ _ _ holds
  | error same failed => exact .error same failed

theorem Ends.imp {run run' : Except Fault α × Decoder} (first : c.Ends values related run run')
    (agree : ∀ value value', values value value' → value = value')
    (weaker : ∀ d d', related d d' → reached d d') : c.Ends Eq reached run run' := by
  cases first with
  | ok same holds => exact .ok (agree _ _ same) (weaker _ _ holds)
  | error same failed => exact .error same failed

end Comparison

/-- What two decoders have in front of them: nothing that their lines go on with, or tokens of the
same text, behind which they are related. -/
inductive Ahead (related : Decoder → Decoder → Prop) (d d' : Decoder) : Prop
  | nothing (none : ∀ token ∈ d.cursor.rest.head?, isOnLine d.line token = false)
      (none' : ∀ token ∈ d'.cursor.rest.head?, isOnLine d'.line token = false)
      (unopened : d.cursor.isAt "(" = false) (unopened' : d'.cursor.isAt "(" = false)
  | token {token token' : Token} {rest rest' : List Token} (ahead : d.cursor.rest = token :: rest)
      (ahead' : d'.cursor.rest = token' :: rest') (same : token'.text = token.text)
      (aligned : isOnLine d'.line token' = isOnLine d.line token)
      (onward : related { d with cursor := ⟨token :: d.cursor.passed, rest⟩ }
        { d' with cursor := ⟨token' :: d'.cursor.passed, rest'⟩ })

/-- Places at which two decoders are related. -/
def Abreast (related : Decoder → Decoder → Prop) (d d' : Decoder) (cursor cursor' : Cursor) :
    Prop :=
  related { d with cursor } { d' with cursor := cursor' }

/-- Reading on finds the same on both sides, and goes on to such places. -/
inductive Finds (places : Cursor → Cursor → Prop) : α × Cursor → α × Cursor → Prop
  | same (found : α) {cursor cursor' : Cursor} (holds : places cursor cursor') :
      Finds places (found, cursor) (found, cursor')

/-- Related decoders read the same tokens and fail in the same way. -/
structure InStep (c : Comparison) (related : Decoder → Decoder → Prop) : Prop where
  ahead : ∀ {d d'}, related d d' → Ahead related d d'
  failed : ∀ {d d'}, related d d' → c.failed d d'
  decode : ∀ {d d'}, related d d' → ∀ cause,
    c.tells (.decode cause d'.line) = c.tells (.decode cause d.line)
  missing : ∀ {d d'}, related d d' →
    c.tells (.decode (.missingOperand (d'.instruction.map Instruction.mnemonic)) d'.line) =
      c.tells (.decode (.missingOperand (d.instruction.map Instruction.mnemonic)) d.line)

theorem isAt_false {cursor : Cursor} {text : Text}
    (other : ∀ token ∈ cursor.rest.head?, token.text ≠ text) : cursor.isAt text = false := by
  rw [← Bool.not_eq_true, isAt_iff]
  rintro ⟨token, rest, ahead, same⟩
  exact other token (by rw [ahead]; rfl) same

theorem groupFrom_elsewhere (passed : List Token) (values : List Text)
    (elsewhere : ∀ token ∈ rest.head?, isOnLine line token = false) :
    groupFrom line passed values rest = (none, ⟨passed, rest⟩) := by
  cases rest with
  | nil => rfl
  | cons token rest => simp [groupFrom, elsewhere token rfl]

theorem joinFrom_elsewhere (passed : List Token) {text : Text}
    (opened : bracketsClosed text = false)
    (elsewhere : ∀ token ∈ rest.head?, isOnLine line token = false) :
    joinFrom line passed text rest = (none, ⟨passed, rest⟩) := by
  cases rest with
  | nil => simp [joinFrom, opened]
  | cons token rest => simp [joinFrom, opened, elsewhere token rfl]

namespace InStep

variable (inStep : InStep c related)

include inStep

theorem isAt_parenthesis (holds : related d d') : d'.cursor.isAt "(" = d.cursor.isAt "(" := by
  cases inStep.ahead holds with
  | nothing _ _ unopened unopened' => rw [unopened, unopened']
  | token ahead ahead' same _ _ => simp only [Cursor.isAt, ahead, ahead', same]

/-- Induction on the tokens that two related decoders have in common. -/
theorem reading {motive : (d d' : Decoder) → related d d' → Prop}
    (nothing : ∀ {d d'} (holds : related d d'),
      (∀ token ∈ d.cursor.rest.head?, isOnLine d.line token = false) →
      (∀ token ∈ d'.cursor.rest.head?, isOnLine d'.line token = false) → motive d d' holds)
    (token : ∀ {d d'} (holds : related d d') {token token' rest rest'},
      d.cursor.rest = token :: rest → d'.cursor.rest = token' :: rest' →
      token'.text = token.text → isOnLine d'.line token' = isOnLine d.line token →
      ∀ onward : related { d with cursor := ⟨token :: d.cursor.passed, rest⟩ }
        { d' with cursor := ⟨token' :: d'.cursor.passed, rest'⟩ },
      motive _ _ onward → motive d d' holds)
    (d d' : Decoder) (holds : related d d') :
    motive d d' holds := by
  cases inStep.ahead holds with
  | nothing none none' _ _ => exact nothing holds none none'
  | token ahead ahead' same aligned onward =>
    exact token holds ahead ahead' same aligned onward (reading nothing token _ _ onward)
termination_by d.cursor.rest.length
decreasing_by
  rw [ahead]
  exact Nat.lt_succ_self _

theorem finds_group (holds : related d d') (values : List Text) :
    Finds (Abreast related d d') (groupFrom d.line d.cursor.passed values d.cursor.rest)
      (groupFrom d'.line d'.cursor.passed values d'.cursor.rest) := by
  induction d, d', holds using inStep.reading generalizing values with
  | nothing holds none none' =>
    rw [groupFrom_elsewhere _ _ none, groupFrom_elsewhere _ _ none']
    exact .same _ holds
  | token holds ahead ahead' same aligned onward ih =>
    rw [ahead, ahead', groupFrom, groupFrom, aligned, same]
    split
    · rw [← ahead, ← ahead']
      exact .same _ holds
    · split
      · exact .same _ onward
      · exact ih _

theorem finds_join (holds : related d d') (text : Text) :
    Finds (Abreast related d d') (joinFrom d.line d.cursor.passed text d.cursor.rest)
      (joinFrom d'.line d'.cursor.passed text d'.cursor.rest) := by
  induction d, d', holds using inStep.reading generalizing text with
  | nothing holds none none' =>
    cases closed : bracketsClosed text with
    | true =>
      rw [joinFrom_of_closed _ _ _ _ closed, joinFrom_of_closed _ _ _ _ closed]
      exact .same _ holds
    | false =>
      rw [joinFrom_elsewhere _ closed none, joinFrom_elsewhere _ closed none']
      exact .same _ holds
  | token holds ahead ahead' same aligned onward ih =>
    rw [ahead, ahead', joinFrom, joinFrom, aligned, same]
    split
    · rw [← ahead, ← ahead']
      exact .same _ holds
    · split
      · rw [← ahead, ← ahead']
        exact .same _ holds
      · exact ih _

theorem readGroup (holds : related d d') (opens : d.cursor.isAt "(" = true) :
    c.Ends Eq related (runOn Decoding.readGroup env d) (runOn Decoding.readGroup env d') := by
  cases inStep.ahead holds with
  | nothing _ _ unopened _ => cases opens.symm.trans unopened
  | @token opening opening' rest rest' ahead ahead' _ _ onward =>
    have found : Finds (Abreast related d d') (groupFrom d.line (opening :: d.cursor.passed) [] rest)
        (groupFrom d'.line (opening' :: d'.cursor.passed) [] rest') :=
      inStep.finds_group onward []
    rw [runOn_readGroup env d _ _ ahead, runOn_readGroup env d' _ _ ahead']
    generalize groupFrom d.line _ _ _ = run at found ⊢
    generalize groupFrom d'.line _ _ _ = run' at found ⊢
    obtain ⟨values?, reached⟩ := found
    cases values? with
    | none => exact .error (inStep.decode holds _) (inStep.failed reached)
    | some values => exact .ok rfl reached

theorem fail (cause : DecodeFault) :
    c.Runs env related (Decoding.fail cause : Decoding α) :=
  fun _ _ holds => .error (inStep.decode holds cause) (inStep.failed holds)

theorem readLiteral (holds : related d d') (opens : d.cursor.isAt "(" = true) :
    c.Ends Eq related (runOn Decoding.readLiteral env d) (runOn Decoding.readLiteral env d') := by
  refine (inStep.readGroup holds opens).bind fun values _ d d' holds => ?_
  dsimp only
  split
  · exact (inStep.fail _ d d' holds).bind fun _ _ _ _ holds => .ok rfl holds
  · exact .ok rfl holds

theorem closeBrackets (text : Text) : c.Runs env related (Decoding.closeBrackets text) := by
  intro d d' holds
  have found := inStep.finds_join holds text
  rw [runOn_closeBrackets_join, runOn_closeBrackets_join]
  generalize joinFrom d.line _ _ _ = run at found ⊢
  generalize joinFrom d'.line _ _ _ = run' at found ⊢
  obtain ⟨joined?, reached⟩ := found
  cases joined? with
  | none => exact .error (inStep.missing holds) (inStep.failed reached)
  | some joined => exact .ok rfl reached

theorem readRawOperand : c.Runs env related Decoding.readRawOperand := by
  intro d d' holds
  -- Without a token of the line, both runs miss the operand.
  have missing (none : ∀ token ∈ d.cursor.rest.head?, isOnLine d.line token = false)
      (none' : ∀ token ∈ d'.cursor.rest.head?, isOnLine d'.line token = false) :
      c.Ends Eq related (runOn Decoding.readRawOperand env d)
        (runOn Decoding.readRawOperand env d') := by
    rw [runOn_readRawOperand_missing env d none, runOn_readRawOperand_missing env d' none']
    exact .error (inStep.missing holds) (inStep.failed holds)
  cases inStep.ahead holds with
  | nothing none none' _ _ => exact missing none none'
  | @token token _ _ _ ahead ahead' same aligned onward =>
    by_cases here : isOnLine d.line token = true
    · rw [runOn_readRawOperand_first env d _ _ ahead ((isOnLine_iff _ _).mp here),
        runOn_readRawOperand_first env d' _ _ ahead'
          ((isOnLine_iff _ _).mp (aligned.trans here)), same, opensLiteral, opensLiteral,
        inStep.isAt_parenthesis onward]
      split
      · next literal => exact inStep.readLiteral onward (Bool.and_eq_true_iff.mp literal).2
      · exact inStep.closeBrackets _ _ _ onward
    · have elsewhere := Bool.eq_false_iff.mpr here
      exact missing (by simpa [ahead] using elsewhere)
        (by simpa [ahead', aligned] using elsewhere)

end InStep

/-- A change of instructions that modifiers respect, as long as a condition holds of the instruction
and one of the decoder in front of them. -/
structure Modified (change : Instruction → Instruction) (plain : Instruction → Prop)
    (free : Decoder → Prop) : Prop where
  applied : ∀ {instruction}, plain instruction → ∀ values,
    applyGroup (change instruction) values = (applyGroup instruction values).map change ∧
      ∀ applied, applyGroup instruction values = .ok applied → plain applied
  group : ∀ {d opening rest values cursor}, free d → d.cursor.rest = opening :: rest →
    opening.text = "(" → d.line = some opening.line →
    groupFrom d.line (opening :: d.cursor.passed) [] rest = (some values, cursor) →
    free { d with cursor }
  suffix : ∀ {d token rest instruction}, free d → plain instruction →
    d.cursor.rest = token :: rest → token.text.head? = some '_' → d.line = some token.line →
    free (d.past [token] rest d.log) ∧ plain (applySuffix instruction token.text) ∧
      applySuffix (change instruction) token.text = change (applySuffix instruction token.text)

theorem groupFrom_shortens {passed : List Token} {values found : List Text} {cursor : Cursor}
    (read : groupFrom line passed values rest = (some found, cursor)) :
    cursor.rest.length < rest.length := by
  obtain ⟨inside, closing, after, split, rfl, _⟩ := groupFrom_some _ _ _ _ _ _ read
  rw [split, List.length_append, List.length_cons]
  show after.length < _
  omega

theorem stops_of_elsewhere (elsewhere : ∀ token ∈ rest.head?, isOnLine line token = false) :
    ∀ token ∈ rest.head?, line = some token.line →
      token.text ≠ "(" ∧ token.text.head? ≠ some '_' := by
  intro token inside here
  have other := elsewhere token inside
  rw [(isOnLine_iff line token).mpr here] at other
  cases other

theorem InStep.readModifiersWithin (inStep : InStep c related)
    {change : Instruction → Instruction} {plain : Instruction → Prop} {free : Decoder → Prop}
    (modified : Modified change plain free) (bound bound' : Nat) {instruction : Instruction}
    (holds : related d d') (clear : free d) (known : plain instruction)
    (enough : d.cursor.rest.length ≤ bound) (enough' : d'.cursor.rest.length ≤ bound') :
    c.Ends (fun result result' => plain result ∧ result' = change result) related
      (runOn (Decoding.readModifiersWithin bound instruction) env d)
      (runOn (Decoding.readModifiersWithin bound' (change instruction)) env d') := by
  induction left : d.cursor.rest.length using Nat.strongRecOn
    generalizing bound bound' instruction d d' with
  | ind left ih =>
    -- No group or suffix of the line is next on either side.
    have stop (stops : ∀ token ∈ d.cursor.rest.head?, d.line = some token.line →
          token.text ≠ "(" ∧ token.text.head? ≠ some '_')
        (stops' : ∀ token ∈ d'.cursor.rest.head?, d'.line = some token.line →
          token.text ≠ "(" ∧ token.text.head? ≠ some '_') :
        c.Ends (fun result result' => plain result ∧ result' = change result) related
          (runOn (Decoding.readModifiersWithin bound instruction) env d)
          (runOn (Decoding.readModifiersWithin bound' (change instruction)) env d') := by
      rw [readModifiers_stop bound _ env d stops, readModifiers_stop bound' _ env d' stops']
      exact .ok ⟨known, rfl⟩ holds
    cases inStep.ahead holds with
    | nothing none none' _ _ => exact stop (stops_of_elsewhere none) (stops_of_elsewhere none')
    | @token token token' rest rest' ahead ahead' same aligned onward =>
      rw [ahead, List.length_cons] at enough left
      rw [ahead', List.length_cons] at enough'
      obtain ⟨bound, rfl⟩ := Nat.exists_eq_succ_of_ne_zero (show bound ≠ 0 by omega)
      obtain ⟨bound', rfl⟩ := Nat.exists_eq_succ_of_ne_zero (show bound' ≠ 0 by omega)
      by_cases onLine : isOnLine d.line token = true
      · have here := (isOnLine_iff _ _).mp onLine
        have here' := (isOnLine_iff _ _).mp (aligned.trans onLine)
        by_cases opens : token.text = "("
        · have found : Finds (Abreast related d d')
              (groupFrom d.line (token :: d.cursor.passed) [] rest)
              (groupFrom d'.line (token' :: d'.cursor.passed) [] rest') :=
            inStep.finds_group onward []
          rw [readModifiers_opening bound _ env d _ _ ahead opens here,
            readModifiers_opening bound' _ env d' _ _ ahead' (same.trans opens) here']
          generalize read : groupFrom d.line _ _ _ = run at found ⊢
          generalize read' : groupFrom d'.line _ _ _ = run' at found ⊢
          obtain @⟨values?, cursor, cursor', reached⟩ := found
          cases values? with
          | none => exact .error (inStep.decode holds _) (inStep.failed reached)
          | some values =>
            obtain ⟨changed, kept⟩ := modified.applied known values
            dsimp only
            rw [changed]
            cases takes : applyGroup instruction values with
            | error fault => exact .error rfl (inStep.failed reached)
            | ok applied =>
              have shorter := groupFrom_shortens read
              have shorter' := groupFrom_shortens read'
              exact ih cursor.rest.length (by omega) bound bound' reached
                (modified.group clear ahead opens here read) (kept applied takes)
                (show cursor.rest.length ≤ bound by omega)
                (show cursor'.rest.length ≤ bound' by omega) rfl
        · by_cases marked : token.text.head? = some '_'
          · obtain ⟨free, plain, changed⟩ := modified.suffix clear known ahead marked here
            rw [readModifiers_suffix bound _ env d _ _ ahead marked here,
              readModifiers_suffix bound' _ env d' _ _ ahead' (by rw [same, marked]) here', same,
              changed]
            exact ih rest.length (by omega) bound bound' onward free plain
              (Nat.le_of_succ_le_succ enough) (Nat.le_of_succ_le_succ enough') rfl
          · apply stop
            · rw [ahead]
              rintro _ ⟨⟩ -
              exact ⟨opens, marked⟩
            · rw [ahead']
              rintro _ ⟨⟩ -
              rw [same]
              exact ⟨opens, marked⟩
      · have elsewhere := Bool.eq_false_iff.mpr onLine
        exact stop (stops_of_elsewhere (by simpa [ahead] using elsewhere))
          (stops_of_elsewhere (by simpa [ahead', aligned] using elsewhere))

/-- Related decoders stay related over the steps that instructions are made of. -/
structure Lockstep (c : Comparison) (env : Environment) (related : Decoder → Decoder → Prop) : Prop
    extends InStep c related where
  resembling : ∀ {d d'}, related d d' → d.resembling d' = d'
  note : ∀ {d d'} {notice : Decoder → Notice},
    (∀ d other : Decoder, notice { other with line := d.line } = notice d) → related d d' →
    related { d with log := d.log ++ [notice d] } { d' with log := d'.log ++ [notice d'] }
  unbalanced : ∀ cause, c.Runs env related (Decoding.unbalanced cause)
  closeBlock : ∀ expected, c.Runs env related (Decoding.closeBlock expected)
  modifyContext : ∀ {change}, Context.Adds change →
    c.Runs env related (Decoding.modifyContext change)
  emitAssignment : ∀ target value, c.Runs env related (Decoding.emitAssignment target value)

theorem Lockstep.ofComposed (lockstep : Lockstep c env related) {steady still : Prop}
    {phase : Phase} {count : Nat} {step : Decoding α} {kind : α → Prop}
    (composed : Composed (.of env.symbols steady still) phase count step kind) :
    c.Runs env related step := by
  induction composed with
  | pure _ => exact fun _ _ holds => .ok rfl holds
  | seq composed _ _ first later =>
    exact fun d d' holds => (first d d' holds).bind fun value returns =>
      later value (composed.kind_of_returns returns)
  | @lookup _ _ _ outcome looked =>
    intro d d' holds
    rw [looked env d rfl, looked env d' rfl]
    cases outcome with
    | error fault => exact .error rfl (lockstep.failed holds)
    | ok value => exact .ok rfl holds
  | fail cause => exact lockstep.fail cause
  | look steady _ later =>
    intro d d' holds
    rw [runOn_bind, runOn_bind, runOn_get, runOn_get]
    dsimp only
    rw [← lockstep.resembling holds, steady d d', lockstep.resembling holds]
    exact later d d d' holds
  | read _ _ later => exact fun d d' holds => later env rfl d d' holds
  | note _ onLine _ later => exact fun _ _ holds => later _ _ (lockstep.note onLine holds)
  | unbalanced _ cause => exact lockstep.unbalanced cause
  | closeBlock _ expected => exact lockstep.closeBlock expected
  | modifyContext _ _ _ adds => exact lockstep.modifyContext adds
  | emitAssignment target value => exact lockstep.emitAssignment target value
  | readRawOperand => exact lockstep.readRawOperand

end ShaderLift.Decoding
