import ShaderLift.Proofs.Decoding.Step

namespace ShaderLift

/-- All the tokens lie on the line of an instruction. -/
def OnLine (line : Option Int) (tokens : List Token) : Prop :=
  ∀ token ∈ tokens, line = some token.line

theorem OnLine.nil (line : Option Int) : OnLine line [] := by simp [OnLine]

theorem OnLine.cons {line : Option Int} {token : Token} {tokens : List Token}
    (here : line = some token.line) (rest : OnLine line tokens) :
    OnLine line (token :: tokens) := by
  simpa [OnLine, here] using rest

theorem OnLine.append {line : Option Int} {first second : List Token} (front : OnLine line first)
    (back : OnLine line second) : OnLine line (first ++ second) := by
  intro token inside
  rcases List.mem_append.mp inside with left | right
  · exact front token left
  · exact back token right

/-- A text with the text of a further token behind it, a blank between them. -/
def glued (text : Text) (token : Token) : Text := text ++ " " ++ token.text

namespace Decoding

/-- Tokens of a line that close the brackets a text leaves open; none of them is behind the
closing one. -/
inductive Joins (line : Option Int) : Text → List Token → Text → Prop
  | done {text : Text} (closed : bracketsClosed text = true) : Joins line text [] text
  | more {text result : Text} {token : Token} {rest : List Token}
      (opened : bracketsClosed text = false) (here : line = some token.line)
      (later : Joins line (glued text token) rest result) : Joins line text (token :: rest) result

theorem Joins.onLine {line : Option Int} {text result : Text} {tokens : List Token}
    (joins : Joins line text tokens result) : OnLine line tokens := by
  induction joins with
  | done => exact .nil line
  | more opened here later ih => exact .cons here ih

theorem isOnLine_iff (line : Option Int) (token : Token) :
    isOnLine line token = true ↔ line = some token.line := by
  simp only [isOnLine, beq_iff_eq]

theorem peeked_some {line : Option Int} {rest : List Token} {token : Token}
    (peeked : rest.head?.filter (isOnLine line) = some token) :
    ∃ later, rest = token :: later ∧ line = some token.line := by
  cases rest with
  | nil => cases peeked
  | cons next later =>
    obtain ⟨same, onLine⟩ := Option.filter_eq_some_iff.mp peeked
    cases same
    exact ⟨later, rfl, (isOnLine_iff line token).mp onLine⟩

theorem groupFrom_some (line : Option Int) (passed : List Token) (values : List Text)
    (rest : List Token) (result : List Text) (cursor : Cursor)
    (read : groupFrom line passed values rest = (some result, cursor)) :
    ∃ (inside : List Token) (closing : Token) (after : List Token),
      rest = inside ++ closing :: after ∧
      cursor = ⟨closing :: (inside.reverse ++ passed), after⟩ ∧ closing.text = ")" ∧
      (∀ token ∈ inside, token.text ≠ ")") ∧ OnLine line (inside ++ [closing]) ∧
      result = values ++ inside.map Token.text := by
  induction rest generalizing passed values with
  | nil => simp [groupFrom] at read
  | cons token later ih =>
    simp only [groupFrom] at read
    split at read
    · cases read
    · rename_i aboard
      have here : line = some token.line := by simpa [isOnLine_iff] using aboard
      split at read
      · rename_i closes
        cases read
        exact ⟨[], token, later, rfl, rfl, closes, by simp, .cons here (.nil line), by simp⟩
      · rename_i inner
        obtain ⟨inside, closing, after, split, place, closes, plain, aligned, same⟩ :=
          ih (token :: passed) (values ++ [token.text]) read
        refine ⟨token :: inside, closing, after, by rw [split]; rfl, ?_, closes, ?_, ?_, ?_⟩
        · simpa using place
        · simpa using ⟨inner, plain⟩
        · exact .cons here aligned
        · simpa using same

theorem groupFrom_closed (line : Option Int) (passed : List Token) (values : List Text)
    (inside after : List Token) (closing : Token) (closes : closing.text = ")")
    (plain : ∀ token ∈ inside, token.text ≠ ")") (aligned : OnLine line (inside ++ [closing])) :
    groupFrom line passed values (inside ++ closing :: after) =
      (some (values ++ inside.map Token.text), ⟨closing :: (inside.reverse ++ passed), after⟩) := by
  induction inside generalizing passed values with
  | nil =>
    have here : isOnLine line closing = true :=
      (isOnLine_iff line closing).mpr (aligned closing (by simp))
    simp [groupFrom, here, closes]
  | cons token rest ih =>
    have here : isOnLine line token = true :=
      (isOnLine_iff line token).mpr (aligned token (by simp))
    have inner : token.text ≠ ")" := plain token (by simp)
    have later := ih (token :: passed) (values ++ [token.text])
      (fun t inside => plain t (List.mem_cons_of_mem token inside))
      (fun t inside => aligned t (List.mem_cons_of_mem token inside))
    simp only [List.cons_append, groupFrom, here, inner, Bool.not_true, Bool.false_eq_true,
      ↓reduceIte]
    simpa using later

theorem joinFrom_some (line : Option Int) (passed : List Token) (text : Text)
    (rest : List Token) (result : Text) (cursor : Cursor)
    (read : joinFrom line passed text rest = (some result, cursor)) :
    ∃ more after : List Token, rest = more ++ after ∧
      cursor = ⟨more.reverse ++ passed, after⟩ ∧ Joins line text more result := by
  induction rest generalizing passed text with
  | nil =>
    simp only [joinFrom, Prod.mk.injEq, Option.ite_none_right_eq_some, Option.some.injEq] at read
    obtain ⟨⟨closed, rfl⟩, rfl⟩ := read
    exact ⟨[], [], rfl, rfl, .done closed⟩
  | cons token later ih =>
    simp only [joinFrom] at read
    split at read
    · rename_i closed
      cases read
      exact ⟨[], token :: later, rfl, rfl, .done closed⟩
    · rename_i opened
      split at read
      · cases read
      · rename_i aboard
        have here : line = some token.line := by simpa [isOnLine_iff] using aboard
        obtain ⟨more, after, split, place, joins⟩ := ih (token :: passed) _ read
        refine ⟨token :: more, after, by rw [split]; rfl, by simpa using place, ?_⟩
        exact .more (by simpa using opened) here joins

theorem joinFrom_of_closed (line : Option Int) (passed : List Token) (text : Text)
    (rest : List Token) (closed : bracketsClosed text = true) :
    joinFrom line passed text rest = (some text, ⟨passed, rest⟩) := by
  cases rest <;> simp [joinFrom, closed]

/-- One operand: a literal mark with its group, or a text together with the tokens that close its
brackets. A literal mark without a group is a text like any other. -/
inductive IsOperand (line : Option Int) : List Token → List Token → Text → Prop
  | literal {mark opening closing : Token} {values following : List Token}
      (marked : mark.text = "l" ∨ mark.text = "d") (opens : opening.text = "(")
      (plain : ∀ token ∈ values, token.text ≠ ")") (closes : closing.text = ")")
      (filled : values ≠ []) (here : line = some mark.line)
      (aligned : OnLine line (values ++ [closing])) :
      IsOperand line (mark :: opening :: (values ++ [closing])) following
        (literalText (values.map Token.text))
  | joined {start : Token} {more following : List Token} {text : Text}
      (bare : (start.text = "l" ∨ start.text = "d") →
        ∀ next ∈ (more ++ following).head?, next.text ≠ "(")
      (here : line = some start.line) (joins : Joins line start.text more text) :
      IsOperand line (start :: more) following text

/-- Operands that follow one another in a list of tokens, with their texts and what is left. -/
inductive OperandRun (line : Option Int) :
    List Token → List (List Token) → List Text → List Token → Prop
  | nil (rest : List Token) : OperandRun line rest [] [] rest
  | cons {operand rest after : List Token} {operands : List (List Token)} {text : Text}
      {texts : List Text} (first : IsOperand line operand rest text)
      (others : OperandRun line rest operands texts after) :
      OperandRun line (operand ++ rest) (operand :: operands) (text :: texts) after

namespace OperandRun

variable {line : Option Int} {start middle after : List Token}
  {operands others : List (List Token)} {texts further : List Text}

theorem single {operand rest : List Token} {text : Text}
    (first : IsOperand line operand rest text) :
    OperandRun line (operand ++ rest) [operand] [text] rest := .cons first (.nil rest)

theorem append (run : OperandRun line start operands texts middle)
    (later : OperandRun line middle others further after) :
    OperandRun line start (operands ++ others) (texts ++ further) after := by
  induction run with
  | nil => exact later
  | cons first others ih => exact .cons first (ih later)

end OperandRun
end Decoding

/-- The decoder behind some tokens that it has read, with the log that it then has. -/
def Decoder.past (d : Decoder) (tokens after : List Token) (log : Log) : Decoder :=
  { d with cursor := ⟨tokens.reverse ++ d.cursor.passed, after⟩, log }

namespace Decoder

@[simp] theorem past_line (d : Decoder) (tokens after : List Token) (log : Log) :
    (d.past tokens after log).line = d.line := rfl

@[simp] theorem past_context (d : Decoder) (tokens after : List Token) (log : Log) :
    (d.past tokens after log).context = d.context := rfl

@[simp] theorem past_rest (d : Decoder) (tokens after : List Token) (log : Log) :
    (d.past tokens after log).cursor.rest = after := rfl

@[simp] theorem past_log (d : Decoder) (tokens after : List Token) (log : Log) :
    (d.past tokens after log).log = log := rfl

theorem past_nil (d : Decoder) : d.past [] d.cursor.rest d.log = d := rfl

theorem past_past (d : Decoder) (first second middle after : List Token) (earlier log : Log) :
    (d.past first middle earlier).past second after log = d.past (first ++ second) after log := by
  simp [past]

end Decoder
end ShaderLift
