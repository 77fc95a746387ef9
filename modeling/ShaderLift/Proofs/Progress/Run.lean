import ShaderLift.Proofs.Decoding.States

namespace ShaderLift

/-- The turns that a run begins: those it completes, and the one it fails in. -/
def Run.begun (run : Run) : Nat := run.turns.length + if run.outcome.isOk then 0 else 1

namespace Decoding

variable {env : Environment} {d reached : Decoder} {instruction next : Instruction}

/-- A modifier that is there takes a token at least. -/
theorem readModifier_takes
    (read : runOn (readModifier instruction) env d = (.ok (.yield next), reached)) :
    d.cursor.Takes 1 reached.cursor := by
  rw [readModifier, runOn_bind, runOn_peekOnLine] at read
  rcases peeked : d.cursor.head?.filter (isOnLine d.line) with _ | token
  · rw [peeked] at read
    cases read
  · obtain ⟨rest, ahead, _⟩ := peeked_some peeked
    have taken := Cursor.Takes.next ahead
    rw [peeked] at read
    dsimp only at read
    split at read
    · -- The group begins behind its parenthesis.
      have group := (groupFrom_progresses d.line).takes (⟨token :: d.cursor.passed, rest⟩, [])
      rw [runOn_bind, runOn_readGroup env d token rest ahead] at read
      dsimp only at group
      generalize groupFrom d.line (token :: d.cursor.passed) [] rest = found at group read
      obtain ⟨_ | values, cursor⟩ := found
      · cases read
      · dsimp only at read
        rw [runOn_bind, runOn_lift] at read
        generalize applyGroup instruction values = applied at read
        cases applied with
        | error fault => cases read
        | ok applied =>
          cases read
          exact taken.trans group
    · split at read
      · rw [discard_eq_bind, bind_assoc,
          runOn_bind_of_ok _ _ _ _ _ _ (runOn_nextToken env d token rest ahead)] at read
        cases read
        exact taken
      · cases read

def modifierRound (env : Environment) : Instruction × Decoder →
    Round (Instruction × Decoder) (Except Fault Instruction × Decoder)
  | (instruction, d) =>
    match runOn (readModifier instruction) env d with
    | (.error fault, reached) => .leaves (.error fault, reached)
    | (.ok (.done instruction), reached) => .leaves (.ok instruction, reached)
    | (.ok (.yield next), reached) => .goesOn (next, reached)

/-- Any bound that is not below the number of tokens left reads the same modifiers. -/
theorem readModifiersWithin_enough (bound bound' : Nat) (instruction : Instruction)
    (env : Environment) (d : Decoder) (enough : d.cursor.rest.length ≤ bound)
    (enough' : d.cursor.rest.length ≤ bound') :
    runOn (readModifiersWithin bound instruction) env d =
      runOn (readModifiersWithin bound' instruction) env d := by
  induction bound generalizing bound' instruction d with
  | zero =>
    have none : d.cursor.rest = [] := List.length_eq_zero_iff.mp (Nat.le_zero.mp enough)
    rw [readModifiers_stop 0 instruction env d (by simp [none]),
      readModifiers_stop bound' instruction env d (by simp [none])]
  | succ bound ih =>
    cases bound' with
    | zero =>
      have none : d.cursor.rest = [] := List.length_eq_zero_iff.mp (Nat.le_zero.mp enough')
      rw [readModifiers_stop 0 instruction env d (by simp [none]),
        readModifiers_stop (bound + 1) instruction env d (by simp [none])]
    | succ bound' =>
      rw [readModifiersWithin_succ, readModifiersWithin_succ, runOn_bind, runOn_bind]
      rcases read : runOn (readModifier instruction) env d with
        ⟨fault | ⟨result⟩ | ⟨next⟩, reached⟩
      · rfl
      · rfl
      · have shorter := (readModifier_takes read).rest_length_le
        exact ih bound' next reached (by omega) (by omega)

/-- Reading the modifiers is reading one, if there is one, and then those behind it. -/
theorem runOn_readModifiers (env : Environment) (instruction : Instruction) (d : Decoder) :
    runOn (readModifiers instruction) env d =
      match runOn (readModifier instruction) env d with
      | (.error fault, reached) => (.error fault, reached)
      | (.ok (.done instruction), reached) => (.ok instruction, reached)
      | (.ok (.yield next), reached) => runOn (readModifiers next) env reached := by
  have more : runOn (readModifiers instruction) env d =
      runOn (readModifiersWithin (d.cursor.rest.length + 1) instruction) env d :=
    readModifiersWithin_enough _ _ instruction env d (Nat.le_refl _) (Nat.le_succ _)
  rw [more, readModifiersWithin_succ, runOn_bind]
  rcases read : runOn (readModifier instruction) env d with
    ⟨fault | ⟨result⟩ | ⟨next⟩, reached⟩
  · rfl
  · rfl
  · have shorter := (readModifier_takes read).rest_length_le
    exact readModifiersWithin_enough _ _ next env reached (by omega) (Nat.le_refl _)

theorem readModifiers_progresses (env : Environment) :
    Round.Progresses (modifierRound env) (fun s => s.2.cursor) (fun r => r.2.cursor) fun s =>
      runOn (readModifiers s.1) env s.2 := by
  apply Round.progresses_of_follows
  rintro ⟨instruction, d⟩
  have moved : d.cursor.Takes 0 (runOn (readModifier instruction) env d).2.cursor :=
    (Accounts.readModifier instruction d rfl : Accounted (fun _ => ()) _ _ _ _ _).takes
  have whole := runOn_readModifiers env instruction d
  simp only [modifierRound]
  rcases read : runOn (readModifier instruction) env d with
    ⟨fault | ⟨result⟩ | ⟨next⟩, reached⟩
  · rw [read] at moved whole
    exact .leaves moved whole
  · rw [read] at moved whole
    exact .leaves moved whole
  · rw [read] at whole
    exact .goesOn (readModifier_takes read) whole

/-- A turn takes a token at least, whether it is completed or not. -/
theorem turn_progresses (env : Environment) (d : Decoder) (more : d.cursor.atEnd = false) :
    d.cursor.Takes 1 (runOn turn env d).2.cursor := by
  rcases ahead : d.cursor.rest with _ | ⟨token, rest⟩
  · simp [Cursor.atEnd, ahead] at more
  · exact (Cursor.Takes.next ahead).trans (turn_takes env d token rest ahead)

def turnRound (env : Environment) (d : Decoder) : Round Decoder (Except Fault Unit × Decoder) :=
  if d.cursor.atEnd then .leaves (.ok (), d)
  else
    match runOn turn env d with
    | (.error fault, reached) => .leaves (.error fault, reached)
    | (.ok (), reached) => .goesOn reached

theorem turns_progresses (env : Environment) :
    Round.Progresses (turnRound env) Decoder.cursor (fun r => r.2.cursor) fun d =>
      ((turns env d).outcome, (turns env d).final) := by
  apply Round.progresses_of_follows
  intro d
  unfold turnRound
  cases ended : d.cursor.atEnd with
  | true =>
    rw [if_pos rfl]
    exact .leaves (.refl _) (by rw [(turns_of_end env ended).1])
  | false =>
    have taken := turn_progresses env d ended
    rw [if_neg Bool.false_ne_true]
    rcases run : runOn turn env d with ⟨fault | _, reached⟩
    · rw [run] at taken
      exact .leaves (taken.weaken (Nat.zero_le 1)) (by rw [(turns_of_error ended run).1])
    · rw [run] at taken
      exact .goesOn taken (by rw [(turns_of_ok run).1])

/-- Every turn that a run begins takes a token at least, and a run that does not fail ends at the
last token. -/
theorem turns_takes (env : Environment) (d : Decoder) :
    d.cursor.Takes (turns env d).begun (turns env d).final.cursor ∧
      ((turns env d).outcome = .ok () → (turns env d).final.cursor.atEnd = true) := by
  induction d using turns_induction env with
  | step d ih =>
    cases ended : d.cursor.atEnd with
    | true =>
      rw [(turns_of_end env ended).1]
      exact ⟨.refl _, fun _ => ended⟩
    | false =>
      have taken := turn_progresses env d ended
      rcases run : runOn turn env d with ⟨fault | _, reached⟩
      · rw [run] at taken
        rw [(turns_of_error ended run).1]
        refine ⟨taken, ?_⟩
        intro completed
        cases completed
      · rw [run] at taken
        obtain ⟨later, finishes⟩ := ih reached run
        rw [(turns_of_ok run).1]
        refine ⟨(taken.trans later).weaken ?_, finishes⟩
        simp only [Run.begun, List.length_cons]
        omega

theorem finished_cursor (env : Environment) (run : Run) :
    (finished env run).turns = run.turns ∧ (finished env run).final.cursor = run.final.cursor := by
  unfold finished
  split
  · exact ⟨rfl, rfl⟩
  · obtain ⟨log, same⟩ := finish_log env run.final
    refine ⟨rfl, ?_⟩
    rw [same]

/-- The turns that decoding a listing begins, all of them behind the stage tag. -/
def begunTurns (env : Environment) (listing : Text) : Nat :=
  match runOn findStage env { cursor := .ofText listing } with
  | (.error _, _) => 0
  | (.ok (), d) => (turns env d).begun

/-- Each turn that is begun takes a token of the listing, and unless decoding fails, all tokens are
read. -/
theorem decodeBody_takes (env : Environment) (listing : Text) :
    (Cursor.ofText listing).Takes (begunTurns env listing) (decodeBody env listing).final.cursor ∧
      (decodeBody env listing).turns.length ≤ begunTurns env listing ∧
      ((decodeBody env listing).outcome = .ok () →
        (decodeBody env listing).final.cursor.atEnd = true) := by
  have searched := (findStage_accounted env { cursor := .ofText listing }).takes
  rcases found : runOn findStage env { cursor := .ofText listing } with ⟨fault | _, d⟩
  · rw [found] at searched
    simp only [begunTurns, decodeBody, found]
    refine ⟨searched, Nat.le_refl 0, ?_⟩
    intro completed
    cases completed
  · rw [found] at searched
    obtain ⟨taken, finishes⟩ := turns_takes env d
    obtain ⟨sameTurns, sameCursor⟩ := finished_cursor env (turns env d)
    have begun : begunTurns env listing = (turns env d).begun := by simp only [begunTurns, found]
    rw [decodeBody_of_stage found, begun, sameTurns, sameCursor]
    refine ⟨(searched.trans taken).weaken (by omega), Nat.le_add_right _ _, fun completed =>
      finishes ?_⟩
    cases ended : (turns env d).outcome with
    | error fault =>
      rw [finished_of_error ended, ended] at completed
      cases completed
    | ok _ => rfl

/-- Decoding makes progress and ends, on every listing and from every place. A turn takes a token at
least, whether it is completed or fails, and never one behind the last. Every loop inside a turn
takes a token in each round that goes on, and is left after no more rounds than it has taken tokens.
So a run begins no more turns than there are tokens, and unless it fails it reads all of them. -/
theorem decoding_progresses (env : Environment) :
    (∀ d : Decoder, d.cursor.atEnd = false → d.cursor.Takes 1 (runOn turn env d).2.cursor) ∧
    ((∀ line, Round.Progresses (groupLoop line).round Prod.fst Prod.snd fun s =>
        groupFrom line s.1.passed s.2 s.1.rest) ∧
      Round.Progresses (modifierRound env) (fun s => s.2.cursor) (fun r => r.2.cursor) (fun s =>
        runOn (readModifiers s.1) env s.2) ∧
      (∀ line, Round.Progresses (bracketLoop line).round Prod.fst Prod.snd fun s =>
        joinFrom line s.1.passed s.2 s.1.rest) ∧
      Round.Progresses rowLoop.round Prod.fst Prod.snd (fun s =>
        rowFrom s.1.passed s.2 s.1.rest) ∧
      Round.Progresses rowsRound Prod.fst Prod.snd (fun s =>
        rowsFrom s.1.passed s.2 none s.1.rest) ∧
      (∀ line, Round.Progresses (lineLoop line).round Prod.fst Prod.snd fun s =>
        ((), Cursor.passLine line s.1.passed s.1.rest)) ∧
      Round.Progresses stageLoop.round Prod.fst Prod.snd (fun s =>
        stageFrom s.1.passed s.1.rest) ∧
      Round.Progresses (turnRound env) Decoder.cursor (fun r => r.2.cursor) (fun d =>
        ((turns env d).outcome, (turns env d).final))) ∧
    (∀ d : Decoder, d.cursor.Takes (turns env d).begun (turns env d).final.cursor) ∧
    ∀ listing, (decodeBody env listing).turns.length ≤ begunTurns env listing ∧
      begunTurns env listing ≤ (tokenize listing).length ∧
      (decodeBody env listing).final.cursor.tokens = tokenize listing ∧
      ((decodeBody env listing).outcome = .ok () →
        (decodeBody env listing).final.cursor.atEnd = true) := by
  refine ⟨turn_progresses env, ⟨groupFrom_progresses, readModifiers_progresses env,
    joinFrom_progresses, rowFrom_progresses, rowsFrom_progresses, passLine_progresses,
    stageFrom_progresses, turns_progresses env⟩, fun d => (turns_takes env d).1, fun listing => ?_⟩
  obtain ⟨taken, recorded, finishes⟩ := decodeBody_takes env listing
  have behind := taken.position_le
  have within := taken.within
  have whole : (Cursor.ofText listing).tokens = tokenize listing := rfl
  rw [whole] at within
  exact ⟨recorded, by omega, taken.tokens_eq.trans whole, finishes⟩

/-- Immediate constants that break off inside a row. -/
def brokenOff : Decoder :=
  { cursor := .ofTokens
      [⟨"dcl_immediateConstantBuffer", 1⟩, ⟨"\x7b", 1⟩, ⟨"\x7b", 2⟩, ⟨"1.0", 2⟩, ⟨"0", 2⟩] }

/-- The turn fails, but it has taken tokens. -/
theorem decoding_progresses_brokenOff :
    brokenOff.cursor.atEnd = false ∧ (runOn turn {} brokenOff).1.isOk = false ∧
      brokenOff.cursor.Takes 1 (runOn turn {} brokenOff).2.cursor :=
  ⟨rfl, by decide +kernel, (decoding_progresses {}).1 brokenOff rfl⟩

end Decoding
end ShaderLift
