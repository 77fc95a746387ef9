import ShaderLift.Proofs.Decoding.States
import ShaderLift.Proofs.Transparency.Alike

namespace ShaderLift.Decoding

variable {env : Environment} {seam : Seam} {line : Int} {d d' : Decoder}

theorem Facing.lengths {rest rest' : List Token} (facing : Facing seam rest rest') :
    ∃ near, rest.length = near + seam.far.length ∧ rest'.length = near + seam.far'.length := by
  induction facing with
  | behind => exact ⟨0, by omega, by omega⟩
  | cons _ _ ih =>
    obtain ⟨near, left, left'⟩ := ih
    refine ⟨near + 1, ?_, ?_⟩
    · rw [List.length_cons]
      omega
    · rw [List.length_cons]
      omega

theorem passLine_elsewhere {line : Int} (passed : List Token) {rest : List Token}
    (elsewhere : ∀ token ∈ rest.head?, isOnLine (some line) token = false) :
    Cursor.passLine line passed rest = ⟨passed, rest⟩ := by
  cases rest with
  | nil => rfl
  | cons token rest =>
    have other := elsewhere token rfl
    rw [← Bool.not_eq_true, isOnLine_iff, Option.some.injEq] at other
    rw [Cursor.passLine, if_neg fun same => other same.symm]

theorem Facing.passLine (inFront : line ≤ seam.last) {rest rest' : List Token}
    (facing : Facing seam rest rest') (passed passed' : List Token) :
    Facing seam (Cursor.passLine line passed rest).rest
      (Cursor.passLine (line + seam.shift) passed' rest').rest := by
  induction facing generalizing passed passed' with
  | behind =>
    rw [passLine_elsewhere _ (seam.elsewhere inFront),
      passLine_elsewhere _ (seam.elsewhere' inFront)]
    exact .behind
  | @cons token rest rest' near later ih =>
    rw [Cursor.passLine, Cursor.passLine]
    by_cases here : token.line = line
    · rw [if_pos here, if_pos (by rw [Token.line_shift, here])]
      exact ih _ _
    · rw [if_neg here, if_neg (by rw [Token.line_shift]; omega)]
      exact .cons near later

/-- A decoder that has read on up to a token of its line. -/
def IsOnLine (d : Decoder) : Prop := d.cursor.passed.head?.map Token.line = d.line

theorem readInstruction_isOnLine {instruction : Instruction}
    (read : runOn readInstruction env d = (.ok (some instruction), d')) : IsOnLine d' := by
  obtain ⟨mnemonic, modifiers, after, _, _, _, found, rfl⟩ := readInstruction_some read
  rcases List.eq_nil_or_concat modifiers with rfl | ⟨front, last, rfl⟩
  · rfl
  · have here := found.onLine last (by simp)
    simpa [IsOnLine, atOperands, Decoder.past] using here.symm

theorem skipLine_of_last {cursor : Cursor} {line : Int}
    (last : cursor.passed.head?.map Token.line = some line) :
    cursor.skipLine = Cursor.passLine line cursor.passed cursor.rest := by
  obtain ⟨passed, rest⟩ := cursor
  cases passed with
  | nil => cases last
  | cons token passed =>
    cases last
    rfl

theorem Alike.skipLine (alike : Alike seam line d d') (here : IsOnLine d) (here' : IsOnLine d') :
    Alike seam line { d with cursor := d.cursor.skipLine }
      { d' with cursor := d'.cursor.skipLine } := by
  rw [skipLine_of_last (here.trans alike.onLine), skipLine_of_last (here'.trans alike.onLine')]
  exact alike.move (alike.rest.passLine alike.inFront _ _)

/-- A run that goes on to where fewer tokens are left than a number, or finds no more of them. -/
def RunsPast {α : Type} (left : Nat) (outcome : Except Fault α) (cursor : Cursor) : Prop :=
  cursor.rest.length < left ∨ ∃ line, outcome = .error (.decode .endOfListing line)

/-- The rows of a buffer are read past every place in front of the closing brace. -/
theorem rowsFrom_runsPast (passed : List Token) (rows : List (List Text))
    (row? : Option (List Text)) (rest : List Token) :
    RunsPast rest.length (rowsFrom passed rows row? rest).1
      (rowsFrom passed rows row? rest).2 := by
  cases rest with
  | nil => exact .inr ⟨_, rfl⟩
  | cons token rest =>
    have onward (passed : List Token) (rows : List (List Text)) (row? : Option (List Text)) :
        (rowsFrom passed rows row? rest).2.rest.length < (token :: rest).length :=
      Nat.lt_succ_of_le (rowsFrom_takes passed rows row? rest).isSuffix.length_le
    left
    cases row? with
    | none =>
      rw [rowsFrom]
      split
      · exact Nat.lt_succ_self _
      · split
        · exact onward _ _ _
        · exact Nat.lt_succ_self _
    | some row =>
      rw [rowsFrom]
      split
      · exact onward _ _ _
      · exact onward _ _ _

/-- What follows the seam is nothing on either side, or is not reached. -/
def Seam.Holds {α : Type} (seam : Seam) (outcome : Except Fault α) (cursor : Cursor) : Prop :=
  seam.far = [] ∧ seam.far' = [] ∨ ¬ RunsPast seam.far.length outcome cursor

/-- Two buffers are read to the same rows in front of the seam, or to the same fault. -/
inductive RowsAlike (seam : Seam) :
    Except Fault (List (List Text)) × Cursor → Except Fault (List (List Text)) × Cursor → Prop
  | ok (rows : List (List Text)) {cursor cursor' : Cursor}
      (facing : Facing seam cursor.rest cursor'.rest) :
      RowsAlike seam (.ok rows, cursor) (.ok rows, cursor')
  | error {fault fault' : Fault} (cursor cursor' : Cursor)
      (same : fault'.unlocated = fault.unlocated) :
      RowsAlike seam (.error fault, cursor) (.error fault', cursor')

theorem rowsFrom_alike {rest rest' : List Token} (facing : Facing seam rest rest')
    (passed passed' : List Token) (rows : List (List Text)) (row? : Option (List Text))
    (holds : seam.Holds (rowsFrom passed rows row? rest).1 (rowsFrom passed rows row? rest).2) :
    RowsAlike seam (rowsFrom passed rows row? rest) (rowsFrom passed' rows row? rest') := by
  induction facing generalizing passed passed' rows row? with
  | behind =>
    rcases holds with ⟨none, none'⟩ | within
    · rw [none, none']
      exact .error _ _ rfl
    · exact absurd (rowsFrom_runsPast passed rows row? seam.far) within
  | @cons token rest rest' _ later ih =>
    cases row? with
    | none =>
      simp only [rowsFrom, Token.text_shift] at holds ⊢
      by_cases closes : token.text = "\x7d"
      · simp only [closes, if_true]
        exact .ok rows later
      · simp only [closes, if_false] at holds ⊢
        by_cases opens : token.text = "\x7b"
        · simp only [opens, if_true] at holds ⊢
          exact ih _ _ _ _ holds
        · simp only [opens, if_false]
          exact .error _ _ rfl
    | some row =>
      simp only [rowsFrom, Token.text_shift] at holds ⊢
      by_cases closes : token.text = "\x7d"
      · simp only [closes, if_true] at holds ⊢
        exact ih _ _ _ _ holds
      · simp only [closes, if_false] at holds ⊢
        exact ih _ _ _ _ holds

/-- Declaring constants goes as far as reading their rows. -/
theorem runsPast_declareConstants (left : Nat) (env : Environment) (d : Decoder) (brace : Token)
    (rest : List Token) (ahead : d.cursor.rest = brace :: rest) (opens : brace.text = "\x7b") :
    RunsPast left (runOn declareConstants env d).1 (runOn declareConstants env d).2.cursor ↔
      RunsPast left (rowsFrom (brace :: d.cursor.passed) [] none rest).1
        (rowsFrom (brace :: d.cursor.passed) [] none rest).2 := by
  rw [runOn_declareConstants_brace env d brace rest ahead opens]
  rcases rowsFrom (brace :: d.cursor.passed) [] none rest with ⟨fault | rows, cursor⟩
  · simp [RunsPast]
  · simp [RunsPast]

theorem declareConstants_alike (alike : Alike seam line d d')
    (holds : seam.Holds (runOn declareConstants env d).1 (runOn declareConstants env d).2.cursor) :
    Comparison.unlocated.Ends Eq (Level seam) (runOn declareConstants env d) (runOn declareConstants env d') := by
  have unopened (other : d.cursor.isAt "\x7b" = false) (other' : d'.cursor.isAt "\x7b" = false) :
      Comparison.unlocated.Ends Eq (Level seam) (runOn declareConstants env d) (runOn declareConstants env d') := by
    rw [runOn_declareConstants_other env d other, runOn_declareConstants_other env d' other']
    exact .error rfl alike.context
  have facing := alike.rest
  generalize ahead : d.cursor.rest = rest at facing
  generalize ahead' : d'.cursor.rest = rest' at facing
  cases facing with
  | behind =>
    -- A brace behind the seam would have been read.
    have other : ∀ token ∈ seam.far.head?, token.text ≠ "\x7b" := by
      intro brace inside opens
      obtain ⟨rest, split⟩ := List.head?_eq_some_iff.mp inside
      rcases holds with ⟨none, -⟩ | within
      · rw [none] at inside
        cases inside
      · apply within
        rw [runsPast_declareConstants _ env d brace rest (ahead.trans split) opens, split]
        exact (rowsFrom_runsPast _ [] none rest).imp Nat.lt_succ_of_lt id
    apply unopened
    · exact isAt_false (by rw [ahead]; exact other)
    · apply isAt_false
      rw [ahead']
      intro token inside opens
      obtain ⟨brace, inside, opens⟩ := seam.brace token inside opens
      exact other brace inside opens
  | @cons token rest rest' _ later =>
    by_cases opens : token.text = "\x7b"
    · have read := rowsFrom_alike later (token :: d.cursor.passed)
        (token.shift seam.shift :: d'.cursor.passed) [] none
        (by rwa [Seam.Holds, ← runsPast_declareConstants _ env d token rest ahead opens])
      rw [runOn_declareConstants_brace env d _ _ ahead opens,
        runOn_declareConstants_brace env d' _ _ ahead' opens]
      generalize rowsFrom _ [] none rest = run at read ⊢
      generalize rowsFrom _ [] none rest' = run' at read ⊢
      cases read with
      | ok rows facing =>
        refine .ok rfl ⟨?_, alike.instruction, facing⟩
        dsimp only
        rw [alike.context]
      | error cursor cursor' same => exact .error same alike.context
    · apply unopened
      · exact isAt_false (by rw [ahead]; rintro next ⟨rfl⟩; exact opens)
      · exact isAt_false (by rw [ahead']; rintro next ⟨rfl⟩; exact opens)

/-- An instruction does the same on both sides, if it declares no constants past the seam. -/
theorem dispatch_alike (instruction : Instruction) (alike : Alike seam line d d')
    (here : IsOnLine d) (here' : IsOnLine d')
    (holds : instruction.opcode.family = .declareConstants →
      seam.Holds (runOn (dispatch instruction) env d).1
        (runOn (dispatch instruction) env d).2.cursor) :
    Comparison.unlocated.Ends Eq (Level seam) (runOn (dispatch instruction) env d)
      (runOn (dispatch instruction) env d') := by
  rcases Composed.dispatch_cases env.symbols instruction False.elim False.elim with
    composed | ⟨declares, constants⟩ | skips
  · exact (Alike.lockstep.ofComposed composed d d' alike).imp (fun _ _ => id) fun _ _ alike =>
      alike.toLevel
  · rw [constants] at holds ⊢
    exact declareConstants_alike alike (holds declares)
  · rw [skips]
    exact .ok rfl (alike.skipLine here here').toLevel

theorem modified_id : Modified id (fun _ => True) fun _ => True where
  applied _ values := ⟨by rw [Except.map_id]; rfl, fun _ _ => trivial⟩
  group _ _ _ _ _ := trivial
  suffix _ _ _ _ _ := ⟨trivial, trivial, rfl⟩

/-- Reading an instruction in front of the seam gives the same one on both sides. -/
theorem readInstruction_alike (env : Environment) (level : Level seam d d')
    (more : seam.far.length < d.cursor.rest.length) :
    ∃ line, Comparison.unlocated.Ends Eq (Alike seam line) (runOn readInstruction env d)
      (runOn readInstruction env d') := by
  have facing := level.rest
  generalize ahead : d.cursor.rest = rest at facing more
  generalize ahead' : d'.cursor.rest = rest' at facing
  cases facing with
  | behind => exact absurd more (Nat.lt_irrefl _)
  | @cons token rest rest' inFront later =>
    have start : Alike seam token.line (atMnemonic d token rest)
        (atMnemonic d' (token.shift seam.shift) rest') :=
      ⟨⟨level.context, level.instruction, later⟩, inFront, rfl, rfl⟩
    refine ⟨token.line, ?_⟩
    rcases classified : Instruction.classify? token.text with _ | instruction
    · obtain ⟨skippedLine, log, skipped⟩ :=
        runOn_readInstruction_none env d token rest ahead classified
      obtain ⟨skippedLine', log', skipped'⟩ :=
        runOn_readInstruction_none env d' (token.shift seam.shift) rest' ahead' classified
      rw [skipped, skipped']
      exact .ok rfl ⟨⟨start.context, start.instruction, later⟩, inFront, rfl, rfl⟩
    · have read : Comparison.unlocated.Ends _ _ (runOn (readModifiers instruction) env _)
          (runOn (readModifiers (id instruction)) env _) :=
        Alike.inStep.readModifiersWithin modified_id _ _ start trivial trivial (Nat.le_refl _)
          (Nat.le_refl _)
      rw [runOn_readInstruction env d _ _ ahead, runOn_readInstruction env d' _ _ ahead',
        Token.text_shift, classified]
      refine (read.imp (fun _ _ same => same.2.symm) fun _ _ => id).bind fun _ _ _ _ alike => ?_
      exact .ok rfl ⟨⟨alike.context, rfl, alike.rest⟩, alike.inFront, alike.onLine, alike.onLine'⟩

/-- A turn in front of the seam declares no constants past it. -/
def Seam.Spares (seam : Seam) (env : Environment) (d : Decoder) : Prop :=
  ∀ instruction, (runOn readInstruction env d).1 = .ok (some instruction) →
    instruction.opcode.family = .declareConstants →
    seam.Holds (runOn turn env d).1 (runOn turn env d).2.cursor

theorem turn_alike (level : Level seam d d') (more : seam.far.length < d.cursor.rest.length)
    (spares : seam.Spares env d) :
    Comparison.unlocated.Ends Eq (Level seam) (runOn turn env d) (runOn turn env d') := by
  obtain ⟨line, read⟩ := readInstruction_alike env level more
  have whole : runOn turn env d = _ := runOn_bind readInstruction _ env d
  have whole' : runOn turn env d' = _ := runOn_bind readInstruction _ env d'
  unfold Seam.Spares at spares
  rw [whole, whole']
  generalize first : runOn readInstruction env d = run at read spares whole ⊢
  generalize first' : runOn readInstruction env d' = run' at read ⊢
  cases read with
  | error same context => exact .error same context
  | @ok instruction? _ _ _ same alike =>
    cases same
    cases instruction? with
    | none => exact .ok rfl alike.toLevel
    | some instruction =>
      refine dispatch_alike instruction alike (readInstruction_isOnLine first)
        (readInstruction_isOnLine first') fun declares => ?_
      have holds := spares instruction rfl declares
      rwa [whole] at holds

end ShaderLift.Decoding
