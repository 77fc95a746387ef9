import ShaderLift.Body.Decoder

namespace ShaderLift

namespace Cursor

theorem position_add_rest (cursor : Cursor) :
    cursor.position + cursor.rest.length = cursor.tokens.length := by
  simp [position, tokens]

/-- At least so many tokens have been read on the way to a place, which is not behind the last of
them, and the tokens are still the same. -/
structure Takes (start : Cursor) (count : Nat) (reached : Cursor) : Prop where
  tokens_eq : reached.tokens = start.tokens
  position_le : start.position + count ≤ reached.position
  within : reached.position ≤ start.tokens.length

namespace Takes

variable {start middle reached : Cursor} {count more : Nat}

theorem refl (cursor : Cursor) : cursor.Takes 0 cursor :=
  ⟨rfl, Nat.le_refl _, by have whole := cursor.position_add_rest; omega⟩

theorem trans (first : start.Takes count middle) (later : middle.Takes more reached) :
    start.Takes (count + more) reached := by
  have further := first.position_le
  have further' := later.position_le
  refine ⟨later.tokens_eq.trans first.tokens_eq, by omega, ?_⟩
  rw [← first.tokens_eq]
  exact later.within

theorem weaken (takes : start.Takes count reached) (fewer : more ≤ count) :
    start.Takes more reached := by
  have further := takes.position_le
  exact ⟨takes.tokens_eq, by omega, takes.within⟩

theorem single (passed : List Token) (token : Token) (rest : List Token) :
    Takes ⟨passed, token :: rest⟩ 1 ⟨token :: passed, rest⟩ where
  tokens_eq := by simp [tokens]
  position_le := by simp [position]
  within := by simp [position, tokens]

/-- The next token is read. -/
theorem next {token : Token} {rest : List Token} (ahead : start.rest = token :: rest) :
    start.Takes 1 ⟨token :: start.passed, rest⟩ := by
  obtain ⟨passed, _⟩ := start
  subst ahead
  exact single passed token rest

theorem rest_length_le (takes : start.Takes count reached) :
    reached.rest.length + count ≤ start.rest.length := by
  have whole := start.position_add_rest
  have whole' := reached.position_add_rest
  have further := takes.position_le
  rw [takes.tokens_eq] at whole'
  omega

theorem isSuffix (takes : start.Takes count reached) : reached.rest <:+ start.rest := by
  have behind : reached.rest <:+ start.tokens := by
    rw [← takes.tokens_eq]
    exact List.suffix_append _ _
  have ahead : start.rest <:+ start.tokens := List.suffix_append _ _
  have shorter := takes.rest_length_le
  exact List.suffix_of_suffix_length_le behind ahead (by omega)

end Takes
end Cursor

/-- What one round of a loop comes to: the loop is left with a result, or goes on. -/
inductive Round (σ ρ : Type) where
  | leaves (result : ρ)
  | goesOn (next : σ)

namespace Round

variable {σ ρ : Type}

/-- A loop goes on for a number of rounds and is left in the one behind them. -/
inductive LeftAfter (round : σ → Round σ ρ) : Nat → σ → ρ → Prop
  | now {state : σ} {result : ρ} (left : round state = .leaves result) :
    LeftAfter round 0 state result
  | later {rounds : Nat} {state next : σ} {result : ρ} (on : round state = .goesOn next)
      (rest : LeftAfter round rounds next result) :
    LeftAfter round (rounds + 1) state result

/-- A loop over tokens makes progress. Each round that goes on has taken a token at least, and the
loop is left from every state, with the result that the run from there has. -/
structure Progresses (round : σ → Round σ ρ) (place : σ → Cursor) (reached : ρ → Cursor)
    (run : σ → ρ) : Prop where
  advances : ∀ state next, round state = .goesOn next → (place state).Takes 1 (place next)
  ends : ∀ state, ∃ rounds, LeftAfter round rounds state (run state) ∧
    (place state).Takes rounds (reached (run state))

variable {place : σ → Cursor} {reached : ρ → Cursor} {run : σ → ρ}

/-- What a round comes to is what the run does from a state: it is left with the result of the run,
or goes on where a token has been taken, with the same run still to come. -/
inductive Follows (place : σ → Cursor) (reached : ρ → Cursor) (run : σ → ρ) (state : σ) :
    Round σ ρ → Prop
  | leaves {result : ρ} (takes : (place state).Takes 0 (reached result))
      (same : run state = result) : Follows place reached run state (.leaves result)
  | goesOn {next : σ} (takes : (place state).Takes 1 (place next)) (same : run state = run next) :
      Follows place reached run state (.goesOn next)

theorem progresses_of_follows {round : σ → Round σ ρ}
    (follows : ∀ state, Follows place reached run state (round state)) :
    Progresses round place reached run where
  advances state next turned := by
    have step := follows state
    rw [turned] at step
    cases step with
    | goesOn takes same => exact takes
  ends state := by
    -- The tokens that are left bound the rounds that are left.
    induction bound : (place state).rest.length using Nat.strongRecOn generalizing state with
    | ind bound ih =>
      subst bound
      have step := follows state
      cases turned : round state with
      | leaves result =>
        rw [turned] at step
        cases step with
        | leaves takes same =>
          rw [same]
          exact ⟨0, .now turned, takes⟩
      | goesOn next =>
        rw [turned] at step
        cases step with
        | goesOn takes same =>
          obtain ⟨rounds, rest, takes'⟩ := ih _ takes.rest_length_le next rfl
          rw [same]
          refine ⟨rounds + 1, .later turned rest, ?_⟩
          rw [Nat.add_comm]
          exact takes.trans takes'

theorem Progresses.takes {round : σ → Round σ ρ}
    (progresses : Progresses round place reached run) (state : σ) :
    (place state).Takes 0 (reached (run state)) := by
  obtain ⟨rounds, _, takes⟩ := progresses.ends state
  exact takes.weaken (Nat.zero_le rounds)

end Round

/-- What a loop over tokens does with the next one. -/
inductive Choice (σ ρ : Type) where
  /-- The loop is left in front of the token. -/
  | leave (result : ρ)
  /-- The loop is left behind the token. -/
  | take (result : ρ)
  /-- The token is read, and the loop goes on. -/
  | keep (next : σ)

/-- A loop that looks at one token in a round. -/
structure TokenLoop (σ ρ : Type) where
  /-- The result where there is no further token. -/
  ended : σ → ρ
  choose : σ → Token → Choice σ ρ

namespace TokenLoop

variable {σ ρ : Type}

def round (loop : TokenLoop σ ρ) : Cursor × σ → Round (Cursor × σ) (ρ × Cursor)
  | (⟨passed, []⟩, state) => .leaves (loop.ended state, ⟨passed, []⟩)
  | (⟨passed, token :: rest⟩, state) =>
    match loop.choose state token with
    | .leave result => .leaves (result, ⟨passed, token :: rest⟩)
    | .take result => .leaves (result, ⟨token :: passed, rest⟩)
    | .keep next => .goesOn (⟨token :: passed, rest⟩, next)

/-- A loop makes progress as soon as its run does in each round what the loop chooses. -/
theorem progresses (loop : TokenLoop σ ρ) (run : List Token → σ → List Token → ρ × Cursor)
    (run_nil : ∀ passed state, run passed state [] = (loop.ended state, ⟨passed, []⟩))
    (run_cons : ∀ passed state token rest, run passed state (token :: rest) =
      match loop.choose state token with
      | .leave result => (result, ⟨passed, token :: rest⟩)
      | .take result => (result, ⟨token :: passed, rest⟩)
      | .keep next => run (token :: passed) next rest) :
    Round.Progresses loop.round Prod.fst Prod.snd fun s => run s.1.passed s.2 s.1.rest := by
  apply Round.progresses_of_follows
  rintro ⟨⟨passed, _ | ⟨token, rest⟩⟩, state⟩
  · exact .leaves (.refl _) (run_nil passed state)
  · have step := run_cons passed state token rest
    have taken := Cursor.Takes.single passed token rest
    simp only [round]
    cases chosen : loop.choose state token with
    | leave result =>
      rw [chosen] at step
      exact .leaves (.refl _) step
    | take result =>
      rw [chosen] at step
      exact .leaves (taken.weaken (Nat.zero_le 1)) step
    | keep next =>
      rw [chosen] at step
      exact .goesOn taken step

end TokenLoop
end ShaderLift
