import ShaderLift.Proofs.Decoding.Operand

namespace ShaderLift

/-- A pattern that consists of component letters. -/
def Swizzle.IsSelection (swizzle : Swizzle) : Prop := ∃ lanes, swizzle = .ofComponents lanes

theorem Swizzle.first_isSelection (count : Nat) : (Swizzle.first count).IsSelection := ⟨_, rfl⟩

namespace Operand

theorem swizzleOf_isSelection (operand : Text) : (swizzleOf operand).IsSelection := by
  simp only [swizzleOf]
  split
  · exact ⟨[], rfl⟩
  · exact ⟨_, rfl⟩

theorem selectValues_fault (expression : Text) (values : List Text) (lanes : List Component)
    (fault : Fault) (failed : selectValues expression values lanes = .error fault) :
    fault.isDecode = true := by
  induction lanes with
  | nil => cases failed
  | cons lane rest ih =>
    simp only [selectValues] at failed
    split at failed
    · cases failed
      rfl
    · rcases found : selectValues expression values rest with later | others
      · rw [found] at failed
        cases failed
        exact ih found
      · rw [found] at failed
        cases failed

theorem reselect_ofComponents (expression : Text) (lanes : List Component) :
    ∃ text, reselect expression (.ofComponents lanes) = .ok text := by
  simp only [reselect, Swizzle.components_ofComponents]
  split <;> exact ⟨_, rfl⟩

theorem selectLiteral_fault (expression : Text) (lanes : List Component) (fault : Fault)
    (failed : selectLiteral expression (.ofComponents lanes) = .error fault) :
    fault.isDecode = true := by
  simp only [selectLiteral, Swizzle.components_ofComponents] at failed
  split at failed
  · cases failed
  · rename_i constructed _
    split at failed
    · cases failed
    · rcases found : selectValues expression (splitArguments constructed.body) lanes with
        later | selected
      · simp only [found, bind, Except.bind] at failed
        cases failed
        exact selectValues_fault _ _ _ _ found
      · simp only [found, bind, Except.bind] at failed
        split at failed <;> cases failed

end Operand

namespace Registers

open Operand

/-- Casting to components can only fail at a literal that lacks one of them. -/
theorem castInner_fault (registers : Registers) (inner : Text) (lanes : List Component)
    (fault : Fault) (failed : registers.castInner inner (.ofComponents lanes) = .error fault) :
    fault.isDecode = true := by
  have fits (expression : Text) : reselect expression (.ofComponents lanes) ≠ .error fault := by
    obtain ⟨text, done⟩ := reselect_ofComponents expression lanes
    simp [done]
  simp only [castInner] at failed
  split at failed
  · exact selectLiteral_fault inner lanes fault failed
  · split at failed
    · split at failed
      · cases failed
      · split at failed
        · cases failed
        · exact absurd failed (fits _)
    · split at failed
      · split at failed
        · cases failed
        · exact absurd failed (fits _)
      · exact absurd failed (fits _)

theorem cast_fault (registers : Registers) (expression : Text) (lanes : List Component)
    (fault : Fault) (failed : registers.cast expression (.ofComponents lanes) = .error fault) :
    fault.isDecode = true := by
  simp only [cast] at failed
  split at failed
  · cases failed
  · rcases found : registers.castInner (splitModifiers expression).inner (.ofComponents lanes) with
      earlier | text
    · simp only [found, bind, Except.bind] at failed
      cases failed
      exact castInner_fault registers _ lanes _ found
    · simp only [found, bind, Except.bind] at failed
      cases failed

end Registers

namespace Decoding

variable {after : List Token} {text : Text}

/-- A token of the line is read; without one, nothing is. -/
theorem runOn_nextOperandToken (env : Environment) (d : Decoder) :
    (∃ cause, runOn nextOperandToken env d = (.error (.decode cause d.line), d)) ∨
    ∃ token rest, d.cursor.rest = token :: rest ∧ d.line = some token.line ∧
      runOn nextOperandToken env d =
        (.ok token, { d with cursor := ⟨token :: d.cursor.passed, rest⟩ }) := by
  rw [nextOperandToken, runOn_bind, runOn_peekOnLine]
  rcases peeked : d.cursor.head?.filter (isOnLine d.line) with _ | token
  · exact .inl ⟨_, by simp only [runOn_bind, runOn_get, runOn_fail]; rfl⟩
  · obtain ⟨rest, ahead, here⟩ := peeked_some peeked
    exact .inr ⟨token, rest, ahead, here, runOn_nextToken env d token rest ahead⟩

theorem runOn_readGroup (env : Environment) (d : Decoder) (opening : Token) (rest : List Token)
    (ahead : d.cursor.rest = opening :: rest) :
    runOn readGroup env d =
      match groupFrom d.line (opening :: d.cursor.passed) [] rest with
      | (some values, cursor) => (.ok values, { d with cursor })
      | (none, cursor) => (.error (.decode .openParenthesis d.line), { d with cursor }) := by
  rw [readGroup, discard_eq_bind, bind_assoc,
    runOn_bind_of_ok _ _ _ _ _ _ (runOn_nextToken env d opening rest ahead)]
  simp only [pure_bind, runOn_bind, runOn_get]
  rcases groupFrom d.line (opening :: d.cursor.passed) [] rest with ⟨_ | values, cursor⟩ <;> rfl

theorem isAt_iff (cursor : Cursor) (text : Text) :
    cursor.isAt text = true ↔ ∃ token rest, cursor.rest = token :: rest ∧ token.text = text := by
  unfold Cursor.isAt
  split <;> rename_i ahead <;> simp [ahead]

theorem runOn_readLiteral (env : Environment) (d : Decoder) (opening : Token)
    (rest : List Token) (ahead : d.cursor.rest = opening :: rest) :
    (∃ cause cursor, runOn readLiteral env d = (.error (.decode cause d.line), { d with cursor })) ∨
    ∃ (inside : List Token) (closing : Token) (after : List Token),
      rest = inside ++ closing :: after ∧ closing.text = ")" ∧
      (∀ token ∈ inside, token.text ≠ ")") ∧ inside ≠ [] ∧ OnLine d.line (inside ++ [closing]) ∧
      runOn readLiteral env d = (.ok (literalText (inside.map Token.text)),
        d.past (opening :: (inside ++ [closing])) after d.log) := by
  have group := runOn_readGroup env d opening rest ahead
  rcases found : groupFrom d.line (opening :: d.cursor.passed) [] rest with ⟨_ | values, cursor⟩
  · rw [found] at group
    exact .inl ⟨_, cursor, runOn_bind_of_error _ _ _ _ _ _ group⟩
  · rw [found] at group
    obtain ⟨inside, closing, after, split, rfl, closes, plain, aligned, same⟩ :=
      groupFrom_some _ _ _ _ _ _ found
    rw [List.nil_append] at same
    by_cases empty : inside = []
    · refine .inl ⟨.emptyLiteral,
        ⟨closing :: (inside.reverse ++ opening :: d.cursor.passed), after⟩,
        (runOn_bind_of_ok _ _ _ _ _ _ group).trans ?_⟩
      simp only [same, empty, List.map_nil, List.isEmpty_nil, ↓reduceIte]
      rfl
    · refine .inr ⟨inside, closing, after, split, closes, plain, empty, aligned,
        (runOn_bind_of_ok _ _ _ _ _ _ group).trans ?_⟩
      simp [same, empty, Decoder.past]

theorem runOn_closeBrackets (text : Text) (env : Environment) (d : Decoder) :
    (∃ cause cursor, runOn (closeBrackets text) env d =
      (.error (.decode cause d.line), { d with cursor })) ∨
    ∃ more after joined, d.cursor.rest = more ++ after ∧ Joins d.line text more joined ∧
      runOn (closeBrackets text) env d = (.ok joined, d.past more after d.log) := by
  rw [closeBrackets, runOn_bind, runOn_get]
  rcases found : joinFrom d.line d.cursor.passed text d.cursor.rest with ⟨_ | joined, cursor⟩
  · exact .inl ⟨_, cursor, by simp only [found]; rfl⟩
  · obtain ⟨more, after, split, rfl, joins⟩ := joinFrom_some _ _ _ _ _ _ found
    exact .inr ⟨more, after, joined, split, joins, by simp only [found]; rfl⟩

/-- One operand is read, or the reading breaks off at a fault of the instruction. -/
theorem runOn_readRawOperand (env : Environment) (d : Decoder) :
    (∃ cause cursor, runOn readRawOperand env d =
      (.error (.decode cause d.line), { d with cursor })) ∨
    ∃ operand after text, d.cursor.rest = operand ++ after ∧ IsOperand d.line operand after text ∧
      runOn readRawOperand env d = (.ok text, d.past operand after d.log) := by
  rcases runOn_nextOperandToken env d with ⟨cause, failed⟩ | ⟨first, rest, ahead, here, success⟩
  · exact .inl ⟨cause, d.cursor, runOn_bind_of_error _ _ _ _ _ _ failed⟩
  · have run : runOn readRawOperand env d = _ := runOn_bind_of_ok _ _ _ _ _ _ success
    rw [runOn_bind, runOn_get] at run
    dsimp only at run
    split at run <;> rename_i choice
    · obtain ⟨marked, opened⟩ : (first.text = "l" ∨ first.text = "d") ∧ _ := by
        simpa only [Bool.and_eq_true, Bool.or_eq_true, decide_eq_true_eq] using choice
      obtain ⟨opening, later, rfl, opens⟩ := (isAt_iff _ _).mp opened
      rcases runOn_readLiteral env { d with cursor := ⟨first :: d.cursor.passed, opening :: later⟩ }
          opening later rfl with
        ⟨cause, cursor, failed⟩ |
          ⟨inside, closing, after, split, closes, plain, filled, aligned, read⟩
      · exact .inl ⟨cause, cursor, run.trans failed⟩
      · refine .inr ⟨first :: opening :: (inside ++ [closing]), after, _, by simp [ahead, split],
          .literal marked opens plain closes filled here aligned, run.trans (read.trans ?_)⟩
        simp [Decoder.past]
    · rcases runOn_closeBrackets first.text env
          { d with cursor := ⟨first :: d.cursor.passed, rest⟩ } with
        ⟨cause, cursor, failed⟩ | ⟨more, after, joined, split, joins, read⟩
      · exact .inl ⟨cause, cursor, run.trans failed⟩
      · refine .inr ⟨first :: more, after, joined, by rw [ahead]; exact congrArg _ split,
          .joined ?_ here joins, run.trans (read.trans ?_)⟩
        · intro marked next inside opens
          obtain ⟨later, whole⟩ := List.head?_eq_some_iff.mp inside
          apply choice
          simp only [Bool.and_eq_true, Bool.or_eq_true, decide_eq_true_eq]
          exact ⟨marked, (isAt_iff _ _).mpr ⟨next, later, split.trans whole, opens⟩⟩
        · simp [Decoder.past]

theorem peeked_of_ahead (d : Decoder) (token : Token) (rest : List Token)
    (ahead : d.cursor.rest = token :: rest) (here : d.line = some token.line) :
    d.cursor.head?.filter (isOnLine d.line) = some token := by
  rw [Cursor.head?, ahead, List.head?_cons, Option.filter_some,
    (isOnLine_iff d.line token).mpr here, if_pos rfl]

theorem runOn_nextOperandToken_first (env : Environment) (d : Decoder) (first : Token)
    (rest : List Token) (ahead : d.cursor.rest = first :: rest)
    (here : d.line = some first.line) :
    runOn nextOperandToken env d =
      (.ok first, { d with cursor := ⟨first :: d.cursor.passed, rest⟩ }) := by
  rw [nextOperandToken, runOn_bind, runOn_peekOnLine, peeked_of_ahead d first rest ahead here]
  exact runOn_nextToken env d first rest ahead

/-- Whether a token that is the mark of a literal stands in front of a parenthesis. -/
def opensLiteral (mark : Text) (cursor : Cursor) : Bool :=
  (mark = "l" || mark = "d") && cursor.isAt "("

theorem runOn_closeBrackets_join (text : Text) (env : Environment) (d : Decoder) :
    runOn (closeBrackets text) env d =
      match joinFrom d.line d.cursor.passed text d.cursor.rest with
      | (some joined, cursor) => (.ok joined, { d with cursor })
      | (none, cursor) =>
        (.error (.decode (.missingOperand (d.instruction.map Instruction.mnemonic)) d.line),
          { d with cursor }) := by
  rw [closeBrackets, runOn_bind, runOn_get]
  dsimp only
  rcases joinFrom d.line d.cursor.passed text d.cursor.rest with ⟨_ | joined, cursor⟩
  · rfl
  · rfl

theorem runOn_readRawOperand_missing (env : Environment) (d : Decoder)
    (missing : ∀ token ∈ d.cursor.rest.head?, isOnLine d.line token = false) :
    runOn readRawOperand env d =
      (.error (.decode (.missingOperand (d.instruction.map Instruction.mnemonic)) d.line), d) := by
  have failed : runOn nextOperandToken env d =
      (.error (.decode (.missingOperand (d.instruction.map Instruction.mnemonic)) d.line), d) := by
    rw [nextOperandToken, runOn_bind, runOn_peekOnLine,
      show d.cursor.head?.filter (isOnLine d.line) = none by
        simpa [Cursor.head?, Option.filter_eq_none_iff] using missing]
    rfl
  exact runOn_bind_of_error _ _ _ _ _ _ failed

theorem runOn_readRawOperand_first (env : Environment) (d : Decoder) (first : Token)
    (rest : List Token) (ahead : d.cursor.rest = first :: rest)
    (here : d.line = some first.line) :
    runOn readRawOperand env d =
      runOn
        (if opensLiteral first.text ⟨first :: d.cursor.passed, rest⟩ then readLiteral
        else closeBrackets first.text)
        env { d with cursor := ⟨first :: d.cursor.passed, rest⟩ } :=
  runOn_bind_of_ok _ _ _ _ _ _ (runOn_nextOperandToken_first env d first rest ahead here)

theorem joinFrom_of_joins {line : Option Int} {result : Text} {more : List Token}
    (joins : Joins line text more result) (passed after : List Token) :
    joinFrom line passed text (more ++ after) = (some result, ⟨more.reverse ++ passed, after⟩) := by
  induction joins generalizing passed with
  | done closed => exact joinFrom_of_closed line passed _ after closed
  | @more text result token rest opened here later ih =>
    have aboard : isOnLine line token = true := (isOnLine_iff line token).mpr here
    simp only [List.cons_append, joinFrom, opened, aboard, Bool.not_true, Bool.false_eq_true,
      if_false]
    exact (ih (token :: passed)).trans (by simp)

/-- An operand that is there is read. -/
theorem runOn_readRawOperand_of_isOperand (env : Environment) (d : Decoder) {operand : List Token}
    (ahead : d.cursor.rest = operand ++ after) (isOperand : IsOperand d.line operand after text) :
    runOn readRawOperand env d = (.ok text, d.past operand after d.log) := by
  cases isOperand with
  | @literal mark opening closing values _ marked opens plain closes filled here aligned =>
    have grouped := groupFrom_closed d.line (opening :: mark :: d.cursor.passed) [] values after
      closing closes plain aligned
    have inside : d.cursor.rest = mark :: opening :: (values ++ closing :: after) := by simp [ahead]
    have isAt : Cursor.isAt ⟨mark :: d.cursor.passed, opening :: (values ++ closing :: after)⟩
        "(" = true := (isAt_iff _ _).mpr ⟨opening, _, rfl, opens⟩
    have literal : (decide (mark.text = "l") || decide (mark.text = "d")) = true := by
      simpa using marked
    have first := runOn_nextOperandToken_first env d mark _ inside here
    rw [readRawOperand, runOn_bind_of_ok _ _ _ _ _ _ first, runOn_bind, runOn_get]
    dsimp only
    rw [literal, isAt, Bool.and_self, if_pos rfl, readLiteral, runOn_bind,
      runOn_readGroup env _ opening _ rfl]
    dsimp only
    rw [grouped]
    simp [filled, Decoder.past]
  | @joined start more _ _ bare here joins =>
    have unmarked : ((decide (start.text = "l") || decide (start.text = "d")) &&
        Cursor.isAt ⟨start :: d.cursor.passed, more ++ after⟩ "(") = false := by
      rw [Bool.eq_false_iff]
      intro both
      simp only [Bool.and_eq_true, Bool.or_eq_true, decide_eq_true_eq] at both
      obtain ⟨marked, opened⟩ := both
      obtain ⟨next, later, whole, opens⟩ := (isAt_iff _ _).mp opened
      exact bare marked next (by rw [show more ++ after = next :: later from whole]; rfl) opens
    have joined := joinFrom_of_joins joins (start :: d.cursor.passed) after
    rw [readRawOperand, runOn_bind_of_ok _ _ _ _ _ _
      (runOn_nextOperandToken_first env d start (more ++ after) ahead here),
      runOn_bind, runOn_get]
    dsimp only
    rw [unmarked, if_neg (by decide), closeBrackets, runOn_bind, runOn_get]
    dsimp only
    have reached : d.past (start :: more) after d.log =
        { d with cursor := ⟨more.reverse ++ start :: d.cursor.passed, after⟩ } := by
      simp [Decoder.past]
    rw [joined, reached]
    rfl

end Decoding
end ShaderLift
