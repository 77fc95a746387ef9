import ShaderLift.Body.Run
import ShaderLift.Proofs.Progress.Loop

namespace ShaderLift.Decoding

def groupLoop (line : Option Int) : TokenLoop (List Text) (Option (List Text)) where
  ended _ := none
  choose values token :=
    if !isOnLine line token then .leave none
    else if token.text = ")" then .take (some values)
    else .keep (values ++ [token.text])

theorem groupFrom_progresses (line : Option Int) :
    Round.Progresses (groupLoop line).round Prod.fst Prod.snd fun s =>
      groupFrom line s.1.passed s.2 s.1.rest := by
  refine (groupLoop line).progresses (groupFrom line) (fun _ _ => rfl) ?_
  intro passed values token rest
  simp only [groupFrom, groupLoop]
  split
  · rfl
  · split <;> rfl

def bracketLoop (line : Option Int) : TokenLoop Text (Option Text) where
  ended text := if bracketsClosed text then some text else none
  choose text token :=
    if bracketsClosed text then .leave (some text)
    else if !isOnLine line token then .leave none
    else .keep (text ++ " " ++ token.text)

theorem joinFrom_progresses (line : Option Int) :
    Round.Progresses (bracketLoop line).round Prod.fst Prod.snd fun s =>
      joinFrom line s.1.passed s.2 s.1.rest := by
  refine (bracketLoop line).progresses (joinFrom line) (fun _ _ => rfl) ?_
  intro passed text token rest
  simp only [joinFrom, bracketLoop]
  split
  · rfl
  · split <;> rfl

def lineLoop (line : Int) : TokenLoop Unit Unit where
  ended _ := ()
  choose _ token := if token.line = line then .keep () else .leave ()

theorem passLine_progresses (line : Int) :
    Round.Progresses (lineLoop line).round Prod.fst Prod.snd fun s =>
      ((), Cursor.passLine line s.1.passed s.1.rest) := by
  refine (lineLoop line).progresses (fun passed _ rest => ((), Cursor.passLine line passed rest))
    (fun _ _ => rfl) ?_
  intro passed _ token rest
  simp only [Cursor.passLine, lineLoop]
  split <;> rfl

def stageLoop : TokenLoop Unit (Option (Stage × Token)) where
  ended _ := none
  choose _ token :=
    match Stage.ofTag? token.text with
    | some stage => .take (some (stage, token))
    | none => .keep ()

theorem stageFrom_progresses :
    Round.Progresses stageLoop.round Prod.fst Prod.snd fun s =>
      stageFrom s.1.passed s.1.rest := by
  refine stageLoop.progresses (fun passed _ rest => stageFrom passed rest) (fun _ _ => rfl) ?_
  intro passed _ token rest
  simp only [stageFrom, stageLoop]
  cases Stage.ofTag? token.text <;> rfl

/-- Reads the values of a row on to its closing brace: the row, if the brace is there, and the place
reached. -/
def rowFrom (passed : List Token) (row : List Text) : List Token → Option (List Text) × Cursor
  | [] => (none, ⟨passed, []⟩)
  | token :: rest =>
    if token.text = "\x7d" then (some row, ⟨token :: passed, rest⟩)
    else rowFrom (token :: passed) (row ++ [token.text]) rest

def rowLoop : TokenLoop (List Text) (Option (List Text)) where
  ended _ := none
  choose row token :=
    if token.text = "\x7d" then .take (some row) else .keep (row ++ [token.text])

theorem rowFrom_progresses :
    Round.Progresses rowLoop.round Prod.fst Prod.snd fun s =>
      rowFrom s.1.passed s.2 s.1.rest := by
  refine rowLoop.progresses rowFrom (fun _ _ => rfl) ?_
  intro passed row token rest
  simp only [rowFrom, rowLoop]
  split <;> rfl

/-- An open row is read to its end, and then the rows behind it. -/
theorem rowsFrom_some (passed : List Token) (rows : List (List Text)) (row : List Text)
    (tokens : List Token) :
    rowsFrom passed rows (some row) tokens =
      match rowFrom passed row tokens with
      | (none, cursor) => (.error (.decode .endOfListing cursor.line?), cursor)
      | (some row, cursor) => rowsFrom cursor.passed (rows ++ [row]) none cursor.rest := by
  induction tokens generalizing passed row with
  | nil => rfl
  | cons token rest ih =>
    simp only [rowsFrom, rowFrom]
    split
    · rfl
    · exact ih _ _

def rowsRound : Cursor × List (List Text) →
    Round (Cursor × List (List Text)) (Except Fault (List (List Text)) × Cursor)
  | (⟨passed, []⟩, _) =>
    .leaves (.error (.decode .endOfListing (passed.head?.map Token.line)), ⟨passed, []⟩)
  | (⟨passed, token :: rest⟩, rows) =>
    if token.text = "\x7d" then .leaves (.ok rows, ⟨token :: passed, rest⟩)
    else if token.text = "\x7b" then
      match rowFrom (token :: passed) [] rest with
      | (none, cursor) => .leaves (.error (.decode .endOfListing cursor.line?), cursor)
      | (some row, cursor) => .goesOn (cursor, rows ++ [row])
    else .leaves (.error (.decode (.strayConstant token.text) token.line), ⟨token :: passed, rest⟩)

theorem rowFrom_takes (passed : List Token) (token : Token) (rest : List Token) :
    Cursor.Takes ⟨passed, token :: rest⟩ 1 (rowFrom (token :: passed) [] rest).2 := by
  exact (Cursor.Takes.single passed token rest).trans
    (rowFrom_progresses.takes (⟨token :: passed, rest⟩, []))

theorem rowsFrom_progresses :
    Round.Progresses rowsRound Prod.fst Prod.snd fun s =>
      rowsFrom s.1.passed s.2 none s.1.rest := by
  apply Round.progresses_of_follows
  rintro ⟨⟨passed, _ | ⟨token, rest⟩⟩, rows⟩
  · exact .leaves (.refl _) rfl
  · have single := (Cursor.Takes.single passed token rest).weaken (Nat.zero_le 1)
    have takes := rowFrom_takes passed token rest
    simp only [rowsRound]
    by_cases closes : token.text = "\x7d"
    · rw [if_pos closes]
      exact .leaves single (by simp only [rowsFrom, closes, if_true])
    by_cases opens : token.text = "\x7b"
    · rw [if_neg closes, if_pos opens]
      have inside : rowsFrom passed rows none (token :: rest) = _ :=
        ((if_neg closes).trans (if_pos opens)).trans (rowsFrom_some (token :: passed) rows [] rest)
      generalize rowFrom (token :: passed) [] rest = found at takes inside ⊢
      obtain ⟨_ | row, cursor⟩ := found
      · exact .leaves (takes.weaken (Nat.zero_le 1)) inside
      · exact .goesOn takes inside
    · rw [if_neg closes, if_neg opens]
      exact .leaves single (by simp only [rowsFrom, closes, opens, if_false])

/-- The rows are read on, whether inside a row or between two of them. -/
theorem rowsFrom_takes (passed : List Token) (rows : List (List Text))
    (row? : Option (List Text)) (tokens : List Token) :
    Cursor.Takes ⟨passed, tokens⟩ 0 (rowsFrom passed rows row? tokens).2 := by
  cases row? with
  | none => exact rowsFrom_progresses.takes (⟨passed, tokens⟩, rows)
  | some row =>
    have inside := rowFrom_progresses.takes (⟨passed, tokens⟩, row)
    rw [rowsFrom_some]
    dsimp only at inside
    generalize rowFrom passed row tokens = found at inside ⊢
    obtain ⟨_ | row, cursor⟩ := found
    · exact inside
    · exact inside.trans (rowsFrom_progresses.takes (cursor, rows ++ [row]))

end ShaderLift.Decoding
