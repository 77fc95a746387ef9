import ShaderLift.Proofs.Decoding.Accounts

namespace ShaderLift.Decoding

variable {env : Environment} {d reached : Decoder}

/-- The decoders from one on, after each turn that is completed. -/
def statesWithin (env : Environment) : Nat → Decoder → List Decoder
  | 0, d => [d]
  | bound + 1, d =>
    if d.cursor.atEnd then [d]
    else
      match runOn turn env d with
      | (.error _, _) => [d]
      | (.ok (), reached) => d :: statesWithin env bound reached

/-- The decoders from one on to the last token. -/
def statesFrom (env : Environment) (d : Decoder) : List Decoder :=
  statesWithin env d.cursor.rest.length d

/-- The decoders that decoding a listing goes through: the one behind the stage tag, and the one
after each turn that is completed. -/
def states (env : Environment) (listing : Text) : List Decoder :=
  match runOn findStage env { cursor := .ofText listing } with
  | (.error _, _) => []
  | (.ok (), d) => statesWithin env d.cursor.rest.length d

/-- The instruction that is read next, if one is. -/
def instructionAt? (env : Environment) (d : Decoder) : Option Instruction :=
  match runOn readInstruction env d with
  | (.ok instruction?, _) => instruction?
  | (.error _, _) => none

theorem instructionAt?_eq {middle : Decoder} {instruction? : Option Instruction}
    (read : runOn readInstruction env d = (.ok instruction?, middle)) :
    instructionAt? env d = instruction? := by
  rw [instructionAt?, read]

theorem instructionAt?_of_end (ended : d.cursor.atEnd = true) : instructionAt? env d = none := by
  unfold instructionAt?
  split
  · rename_i read
    obtain ⟨token, rest, ahead⟩ := readInstruction_ahead read
    rw [Cursor.atEnd, ahead] at ended
    cases ended
  · rfl

theorem turn_read (completed : runOn turn env d = (.ok (), reached)) :
    ∃ middle, runOn readInstruction env d = (.ok (instructionAt? env d), middle) := by
  rcases read : runOn readInstruction env d with ⟨fault | instruction?, middle⟩
  · have failed : runOn turn env d = _ := runOn_bind_of_error _ _ _ _ _ _ read
    rw [completed] at failed
    cases failed
  · rw [instructionAt?_eq read]
    exact ⟨middle, rfl⟩

theorem head?_statesWithin (env : Environment) (bound : Nat) (d : Decoder) :
    (statesWithin env bound d).head? = some d := by
  unfold statesWithin
  repeat' split
  all_goals rfl

section Steps

variable (env : Environment) (bound : Nat) {d reached : Decoder}

theorem run_of_end (ended : d.cursor.atEnd = true) :
    turnsWithin env (bound + 1) d = ⟨[], .ok (), d⟩ ∧ statesWithin env (bound + 1) d = [d] := by
  simp only [turnsWithin, statesWithin, ended, if_true, and_self]

theorem run_of_error {fault : Fault} (more : d.cursor.atEnd = false)
    (failed : runOn turn env d = (.error fault, reached)) :
    turnsWithin env (bound + 1) d = ⟨[], .error fault, reached⟩ ∧
      statesWithin env (bound + 1) d = [d] := by
  simp only [turnsWithin, statesWithin, more, Bool.false_eq_true, if_false, failed, and_self]

theorem run_of_ok (more : d.cursor.atEnd = false)
    (completed : runOn turn env d = (.ok (), reached)) :
    turnsWithin env (bound + 1) d =
        { turnsWithin env bound reached with
          turns := recordOf d reached :: (turnsWithin env bound reached).turns } ∧
      statesWithin env (bound + 1) d = d :: statesWithin env bound reached := by
  simp only [turnsWithin, statesWithin, more, Bool.false_eq_true, if_false, completed, and_self]

end Steps

/-- A completed turn takes a token at least. -/
theorem turn_advances (completed : runOn turn env d = (.ok (), reached)) :
    ∃ token rest, d.cursor.rest = token :: rest ∧ reached.cursor.rest <:+ rest := by
  obtain ⟨middle, read⟩ := turn_read completed
  obtain ⟨token, rest, ahead⟩ := readInstruction_ahead read
  have moved := turn_takes env d token rest ahead
  rw [completed] at moved
  exact ⟨token, rest, ahead, moved.isSuffix⟩

theorem turn_shortens (completed : runOn turn env d = (.ok (), reached)) :
    reached.cursor.rest.length < d.cursor.rest.length := by
  obtain ⟨token, rest, ahead, left⟩ := turn_advances completed
  have shorter := left.length_le
  rw [ahead, List.length_cons]
  omega

theorem atEnd_iff (cursor : Cursor) : cursor.atEnd = true ↔ cursor.rest.length = 0 := by
  rw [Cursor.atEnd, List.isEmpty_iff, List.length_eq_zero_iff]

theorem run_at_end (env : Environment) (bound : Nat) (ended : d.cursor.atEnd = true) :
    turnsWithin env bound d = ⟨[], .ok (), d⟩ ∧ statesWithin env bound d = [d] := by
  cases bound with
  | zero => exact ⟨rfl, rfl⟩
  | succ bound => exact run_of_end env bound ended

/-- Any bound that is not below the number of tokens left gives the same run. -/
theorem run_enough (env : Environment) (bound bound' : Nat) (d : Decoder)
    (enough : d.cursor.rest.length ≤ bound) (enough' : d.cursor.rest.length ≤ bound') :
    turnsWithin env bound d = turnsWithin env bound' d ∧
      statesWithin env bound d = statesWithin env bound' d := by
  induction bound generalizing bound' d with
  | zero =>
    have ended : d.cursor.atEnd = true := (atEnd_iff _).mpr (by omega)
    have run := run_at_end env bound' ended
    rw [run.1, run.2]
    exact run_at_end env 0 ended
  | succ bound ih =>
    cases ended : d.cursor.atEnd with
    | true =>
      have run := run_at_end env bound' ended
      rw [run.1, run.2]
      exact run_at_end env (bound + 1) ended
    | false =>
      have some_left : d.cursor.rest.length ≠ 0 := by
        intro none
        rw [(atEnd_iff _).mpr none] at ended
        cases ended
      obtain ⟨bound', rfl⟩ := Nat.exists_eq_succ_of_ne_zero (show bound' ≠ 0 by omega)
      rcases turned : runOn turn env d with ⟨fault | _, reached⟩
      · have run := run_of_error env bound ended turned
        have run' := run_of_error env bound' ended turned
        rw [run.1, run.2, run'.1, run'.2]
        exact ⟨rfl, rfl⟩
      · have shorter := turn_shortens turned
        have rest := ih bound' reached (by omega) (by omega)
        have run := run_of_ok env bound ended turned
        have run' := run_of_ok env bound' ended turned
        rw [run.1, run.2, run'.1, run'.2, rest.1, rest.2]
        exact ⟨rfl, rfl⟩

theorem turns_of_end (env : Environment) (ended : d.cursor.atEnd = true) :
    turns env d = ⟨[], .ok (), d⟩ ∧ statesFrom env d = [d] :=
  run_at_end env _ ended

theorem turns_of_error {fault : Fault} (more : d.cursor.atEnd = false)
    (failed : runOn turn env d = (.error fault, reached)) :
    turns env d = ⟨[], .error fault, reached⟩ ∧ statesFrom env d = [d] := by
  have enough := run_enough env d.cursor.rest.length (d.cursor.rest.length + 1) d (by omega)
    (by omega)
  have run := run_of_error env d.cursor.rest.length more failed
  exact ⟨enough.1.trans run.1, enough.2.trans run.2⟩

theorem turns_of_ok (completed : runOn turn env d = (.ok (), reached)) :
    turns env d =
        { turns env reached with turns := recordOf d reached :: (turns env reached).turns } ∧
      statesFrom env d = d :: statesFrom env reached := by
  have shorter := turn_shortens completed
  have more : d.cursor.atEnd = false := by
    rw [← Bool.not_eq_true, atEnd_iff]
    omega
  have enough := run_enough env d.cursor.rest.length (d.cursor.rest.length + 1) d (by omega)
    (by omega)
  have rest := run_enough env d.cursor.rest.length reached.cursor.rest.length reached (by omega)
    (by omega)
  have run := run_of_ok env d.cursor.rest.length more completed
  rw [rest.1, rest.2] at run
  exact ⟨enough.1.trans run.1, enough.2.trans run.2⟩

theorem mem_statesFrom (env : Environment) (d : Decoder) : d ∈ statesFrom env d := by
  rw [statesFrom]
  cases d.cursor.rest.length with
  | zero => exact List.mem_singleton_self d
  | succ bound =>
    rw [statesWithin]
    split
    · exact List.mem_singleton_self d
    · split
      · exact List.mem_singleton_self d
      · exact List.mem_cons_self ..

/-- What holds of a decoder as soon as it holds of the one that a completed turn leads to holds of
every decoder. -/
theorem turns_induction (env : Environment) {motive : Decoder → Prop}
    (step : ∀ d, (∀ reached, runOn turn env d = (.ok (), reached) → motive reached) → motive d)
    (d : Decoder) : motive d := by
  induction left : d.cursor.rest.length using Nat.strongRecOn generalizing d with
  | ind left ih =>
    subst left
    exact step d fun reached completed => ih _ (turn_shortens completed) reached rfl

theorem runOn_findStage (env : Environment) (d : Decoder) :
    runOn findStage env d =
      match stageFrom d.cursor.passed d.cursor.rest with
      | (none, cursor) => (.error .missingStage, { d with cursor })
      | (some (stage, token), cursor) =>
        (.ok (), { d with cursor, context := { d.context with stage := some stage },
                          log := d.log ++ [.stageFound token.text token.line] }) := by
  rcases found : stageFrom d.cursor.passed d.cursor.rest with ⟨_ | ⟨stage, token⟩, cursor⟩
  · simp only [findStage, runOn_bind, runOn_get, found, runOn_setCursor, runOn_throw]
  · simp only [findStage, runOn_bind, runOn_get, found, runOn_setCursor, runOn_modifyContext,
      runOn_note]

theorem findStage_accounted (env : Environment) (d : Decoder) :
    Accounted (fun _ => ()) env d.cursor.tokens (fun _ => True) d (runOn findStage env d) := by
  have searched := stageFrom_progresses.takes (d.cursor, ())
  rw [runOn_findStage]
  dsimp only at searched
  generalize stageFrom d.cursor.passed d.cursor.rest = found at searched ⊢
  obtain ⟨_ | ⟨stage, token⟩, cursor⟩ := found
  · exact .error searched rfl (.inl rfl)
  · exact .ok searched rfl trivial

/-- A run of turns with the check for open blocks behind it. -/
def finished (env : Environment) (run : Run) : Run :=
  match run.outcome with
  | .error _ => run
  | .ok () =>
    { run with outcome := (runOn finish env run.final).1, final := (runOn finish env run.final).2 }

theorem finished_of_error {run : Run} {fault : Fault} (failed : run.outcome = .error fault) :
    finished env run = run := by
  simp only [finished, failed]

/-- The check for open blocks only writes to the log. -/
theorem finish_log (env : Environment) (d : Decoder) :
    ∃ log, (runOn finish env d).2 = { d with log } := by
  rw [finish, runOn_bind, runOn_get]
  dsimp only
  split
  · rw [runOn_bind, runOn_unbalanced]
    cases env.config.strict with
    | true => exact ⟨_, rfl⟩
    | false => exact ⟨_, rfl⟩
  · exact ⟨_, rfl⟩

theorem finish_context (env : Environment) (d : Decoder) :
    (runOn finish env d).2.context = d.context := by
  obtain ⟨log, same⟩ := finish_log env d
  rw [same]

theorem finished_context (env : Environment) (run : Run) :
    (finished env run).final.context = run.final.context := by
  unfold finished
  split
  · rfl
  · exact finish_context env run.final

theorem decodeBody_of_stage {listing : Text} {d : Decoder}
    (found : runOn findStage env { cursor := .ofText listing } = (.ok (), d)) :
    decodeBody env listing = finished env (turns env d) := by
  cases ended : (turns env d).outcome with
  | error fault => simp only [decodeBody, found, finished, ended]
  | ok _ => simp only [decodeBody, found, finished, ended]

/-- A body that is decoded to its end was decoded by completed turns. -/
theorem decodeBody_completed {listing : Text}
    (decoded : (decodeBody env listing).outcome = .ok ()) :
    ∃ d, runOn findStage env { cursor := .ofText listing } = (.ok (), d) ∧
      (turns env d).outcome = .ok () ∧ states env listing = statesFrom env d ∧
      (decodeBody env listing).final.context = (turns env d).final.context := by
  rcases found : runOn findStage env { cursor := .ofText listing } with ⟨fault | _, d⟩
  · simp only [decodeBody, found] at decoded
    cases decoded
  · rw [decodeBody_of_stage found] at decoded ⊢
    refine ⟨d, rfl, ?_, by simp only [states, found, statesFrom], finished_context env _⟩
    cases ended : (turns env d).outcome with
    | error fault =>
      rw [finished_of_error ended, ended] at decoded
      cases decoded
    | ok _ => rfl

end ShaderLift.Decoding
